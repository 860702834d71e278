import InvertedIndex.Pattern.Expr.Parser

namespace InvertedIndex.Pattern

/-- What is read takes the first character at least. -/
def Consumes {α : Type} (read : List Char → Option (α × List Char)) : Prop :=
  ∀ cs x rest, read cs = some (x, rest) → rest <:+ cs.tail

/-- What is left when a part of a text has been read is the end of the text. -/
theorem Consumes.suffix {α : Type} {read : List Char → Option (α × List Char)} (h : Consumes read)
    {cs rest : List Char} {x : α} (e : read cs = some (x, rest)) : rest <:+ cs :=
  (h cs x rest e).trans (List.tail_suffix cs)

theorem Consumes.map {α β : Type} {read : List Char → Option (α × List Char)} (h : Consumes read)
    (f : α → β) : Consumes fun cs => (read cs).map fun (x, rest) => (f x, rest) := by
  intro cs y rest e
  obtain ⟨⟨x, rest⟩, hx, hy⟩ := Option.map_eq_some_iff.mp e
  cases hy
  exact h cs x rest hx

namespace Cursor

theorem suffix_dropRemarks (inComment : Bool) (cs : List Char) : dropRemarks inComment cs <:+ cs := by
  induction cs generalizing inComment with
  | nil => cases inComment <;> exact List.suffix_refl []
  | cons c cs ih =>
    have hlonger := List.suffix_cons c cs
    cases inComment with
    | true => exact (ih _).trans hlonger
    | false =>
      simp only [dropRemarks]
      split
      · exact (ih _).trans hlonger
      · split
        · exact (ih _).trans hlonger
        · exact List.suffix_refl _

theorem suffix_skip (verbose : Bool) (cs : List Char) : skip verbose cs <:+ cs := by
  cases verbose with
  | true => exact suffix_dropRemarks false cs
  | false => exact List.suffix_refl cs

theorem length_skip_le (verbose : Bool) (cs : List Char) :
    (skip verbose cs).length ≤ cs.length := (suffix_skip verbose cs).length_le

theorem suffix_next (verbose : Bool) (cs : List Char) : next verbose cs <:+ cs.tail :=
  suffix_skip verbose cs.tail

theorem suffix_takeRun (verbose : Bool) (p : Char → Bool) (n : Nat) (cs : List Char) :
    (takeRun verbose p n cs).2 <:+ cs := by
  induction n generalizing cs with
  | zero => exact List.suffix_refl cs
  | succ n ih =>
    cases cs with
    | nil => exact List.suffix_refl []
    | cons c cs =>
      simp only [takeRun]
      split
      · exact (ih _).trans ((suffix_skip verbose cs).trans (List.suffix_cons c cs))
      · exact List.suffix_refl _

theorem consumes_takeBraced (verbose : Bool) (n : Nat) : Consumes (takeBraced verbose n) := by
  intro cs x rest h
  induction n generalizing cs x with
  | zero => cases h
  | succ n ih =>
    cases cs with
    | nil => cases h
    | cons c cs =>
      rw [takeBraced] at h
      split at h
      · cases h
        exact List.suffix_refl _
      · obtain ⟨⟨body, tail⟩, hbody, heq⟩ := Option.map_eq_some_iff.mp h
        cases heq
        exact ((ih _ _ hbody).trans (List.tail_suffix _)).trans (suffix_skip verbose cs)

theorem suffix_takeFixed {verbose : Bool} {n : Nat} {cs taken rest : List Char}
    (h : takeFixed verbose n cs = some (taken, rest)) : rest <:+ cs := by
  induction n generalizing cs taken with
  | zero =>
    cases h
    exact List.suffix_refl _
  | succ n ih =>
    cases cs with
    | nil => cases h
    | cons c cs =>
      obtain ⟨⟨body, tail⟩, hbody, heq⟩ := Option.map_eq_some_iff.mp h
      cases heq
      exact ((ih hbody).trans (suffix_skip verbose cs)).trans (List.suffix_cons c cs)

theorem consumes_takeFixed (verbose : Bool) {n : Nat} (hn : 0 < n) :
    Consumes (takeFixed verbose n) := by
  intro cs taken rest h
  obtain ⟨n, rfl⟩ : ∃ m, n = m + 1 := ⟨n - 1, by omega⟩
  cases cs with
  | nil => cases h
  | cons c cs =>
    obtain ⟨⟨body, tail⟩, hbody, heq⟩ := Option.map_eq_some_iff.mp h
    cases heq
    exact (suffix_takeFixed hbody).trans (suffix_skip verbose cs)

theorem suffix_decimal? {verbose : Bool} {cs rest : List Char} {value : Nat}
    (h : decimal? verbose cs = some (value, rest)) : rest <:+ cs := by
  unfold decimal? at h
  dsimp only at h
  split at h
  · cases h
  · cases h
    exact ((List.dropWhile_suffix _).trans (suffix_takeRun verbose _ _ _)).trans
      (List.dropWhile_suffix _)

end Cursor

namespace Escape

open Cursor

/-- The digits of a scalar value, in braces or not. -/
def digits? (verbose : Bool) (digits : Nat) : List Char → Option (Literal × List Char)
  | [] => none
  | c :: rest =>
    if c = '\x7b' then do
      let (body, rest) ← takeBraced verbose (rest.length + 1) (skip verbose rest)
      let char ← scalar? body
      some (⟨char, false⟩, skip verbose rest)
    else do
      let (body, rest) ← takeFixed verbose digits (c :: rest)
      let char ← scalar? body
      some (⟨char, digits = 2⟩, rest)

theorem hex?_eq (verbose : Bool) (digits : Nat) (cs : List Char) :
    hex? verbose digits cs = digits? verbose digits (next verbose cs) := rfl

/-- The name of a property, in braces or not. -/
def propertyName? (verbose negated : Bool) : List Char → Option (Primitive × List Char)
  | [] => none
  | c :: rest =>
    if c = '\x7b' then do
      let (name, rest) ← takeBraced verbose (rest.length + 1) (skip verbose rest)
      let (query, unequal) := query name
      some (.property query (negated != unequal), rest)
    else if c = '\\' then none
    else some (.property (.named [c]) negated, skip verbose rest)

theorem property?_eq (verbose negated : Bool) (cs : List Char) :
    property? verbose negated cs = propertyName? verbose negated (next verbose cs) := rfl

theorem consumes_digits? (verbose : Bool) {digits : Nat} (hdigits : 0 < digits) :
    Consumes (digits? verbose digits) := by
  intro cs l rest h
  cases cs with
  | nil => cases h
  | cons c cs =>
    rw [digits?] at h
    split at h
    · obtain ⟨⟨body, tail⟩, hbody, h⟩ := Option.bind_eq_some_iff.mp h
      obtain ⟨char, -, heq⟩ := Option.bind_eq_some_iff.mp h
      cases heq
      exact (suffix_skip verbose tail).trans
        (((consumes_takeBraced verbose _).suffix hbody).trans (suffix_skip verbose cs))
    · obtain ⟨⟨body, tail⟩, hbody, h⟩ := Option.bind_eq_some_iff.mp h
      obtain ⟨char, -, heq⟩ := Option.bind_eq_some_iff.mp h
      cases heq
      exact consumes_takeFixed verbose hdigits _ _ _ hbody

theorem consumes_propertyName? (verbose negated : Bool) :
    Consumes (propertyName? verbose negated) := by
  intro cs p rest h
  cases cs with
  | nil => cases h
  | cons c cs =>
    rw [propertyName?] at h
    split at h
    · obtain ⟨⟨name, tail⟩, hname, heq⟩ := Option.bind_eq_some_iff.mp h
      cases heq
      exact ((consumes_takeBraced verbose _).suffix hname).trans (suffix_skip verbose cs)
    · split at h
      · cases h
      · cases h
        exact suffix_skip verbose cs

theorem suffix_edge? {verbose : Bool} {cs rest : List Char} {edge : WordEdge}
    (h : edge? verbose cs = some (edge, rest)) : rest <:+ cs := by
  unfold edge? at h
  split at h
  · next cs =>
    split at h
    · cases h
    · next c tail hnext =>
      have hsuffix : c :: tail <:+ '\x7b' :: cs := by
        rw [← hnext]
        exact (suffix_next verbose _).trans (List.tail_suffix _)
      dsimp only at h
      split at h
      · split at h
        · next name after hrun =>
          obtain ⟨edge, -, heq⟩ := Option.map_eq_some_iff.mp h
          cases heq
          have hbrace := suffix_takeRun verbose (fun c => c.isAlpha || c = '-') (tail.length + 1)
            (c :: tail)
          rw [hrun] at hbrace
          exact ((List.suffix_cons _ _).trans hbrace).trans hsuffix
        · cases h
      · cases h
        exact List.suffix_refl _
  · cases h
    exact List.suffix_refl _

theorem consumes_hex? (verbose : Bool) {digits : Nat} (hdigits : 0 < digits) :
    Consumes (hex? verbose digits) := by
  intro cs l rest h
  rw [hex?_eq] at h
  exact ((consumes_digits? verbose hdigits).suffix h).trans (suffix_next verbose cs)

theorem consumes_property? (verbose negated : Bool) : Consumes (property? verbose negated) := by
  intro cs p rest h
  rw [property?_eq] at h
  exact ((consumes_propertyName? verbose negated).suffix h).trans (suffix_next verbose cs)

/-- Whatever is escaped takes at least one character. -/
theorem consumes_read? (verbose : Bool) : Consumes (read? verbose) := by
  intro cs p rest h
  cases cs with
  | nil => cases h
  | cons c cs =>
    unfold read? at h
    simp only at h
    split at h
    · cases h
    · split at h
      · exact (consumes_hex? verbose (by decide)).map _ _ _ _ h
      · split at h
        · exact (consumes_hex? verbose (by decide)).map _ _ _ _ h
        · split at h
          · exact (consumes_hex? verbose (by decide)).map _ _ _ _ h
          · split at h
            · exact consumes_property? verbose false _ _ _ h
            · split at h
              · exact consumes_property? verbose true _ _ _ h
              · split at h
                · cases h
                  exact List.suffix_refl _
                · split at h <;> first
                    | (cases h; done)
                    | (cases h; exact List.suffix_refl _)
                    | (obtain ⟨⟨edge, tail⟩, hedge, heq⟩ := Option.map_eq_some_iff.mp h
                       cases heq
                       exact suffix_edge? hedge)

end Escape

namespace Bracket

open Cursor

/-- What an opening makes of the hyphens behind it. -/
def afterHyphens (negated : Bool) (hyphens cs : List Char) : Open × List Char :=
  match hyphens, cs with
  | [], ']' :: rest => (⟨negated, none, [char ']']⟩, rest)
  | _, _ => (⟨negated, none, hyphens.map char⟩, cs)

/-- Whether a caret negates a bracket, and what stands behind it. -/
def negation (verbose : Bool) (cs : List Char) : Bool × List Char :=
  match cs with
  | '^' :: _ => (true, next verbose cs)
  | _ => (false, cs)

theorem openAt_eq (verbose : Bool) (cs : List Char) :
    openAt verbose cs =
      let (negated, cs) := negation verbose (skip verbose cs)
      let (hyphens, cs) := takeRun verbose (· = '-') cs.length cs
      afterHyphens negated hyphens cs := rfl

theorem suffix_negation (verbose : Bool) (cs : List Char) : (negation verbose cs).2 <:+ cs := by
  unfold negation
  split
  · exact (suffix_next verbose _).trans (List.tail_suffix _)
  · exact List.suffix_refl _

theorem suffix_afterHyphens (negated : Bool) (hyphens cs : List Char) :
    (afterHyphens negated hyphens cs).2 <:+ cs := by
  unfold afterHyphens
  split
  · exact List.suffix_cons _ _
  · exact List.suffix_refl _

theorem suffix_openAt (verbose : Bool) (cs : List Char) : (openAt verbose cs).2 <:+ cs := by
  rw [openAt_eq]
  exact ((suffix_afterHyphens _ _ _).trans (suffix_takeRun verbose _ _ _)).trans
    ((suffix_negation verbose _).trans (suffix_skip verbose cs))

/-- The name of a class and what closes it. -/
def asciiName? (negated : Bool) (cs : List Char) : Option (ClassExpr × List Char) :=
  match cs.dropWhile (· != ':') with
  | ':' :: ']' :: rest =>
    (asciiNamed? (cs.takeWhile (· != ':'))).map fun kind => (.ascii kind negated, rest)
  | _ => none

theorem ascii?_cons (cs : List Char) :
    ascii? ('[' :: ':' :: cs) =
      match cs with
      | '^' :: rest => asciiName? true rest
      | _ => asciiName? false cs := by
  cases cs with
  | nil => rfl
  | cons c cs =>
    by_cases hc : c = '^'
    · subst hc
      rfl
    · have hne : ∀ rest, c :: cs ≠ '^' :: rest := fun rest h => hc (List.cons.inj h).1
      have hright : (match c :: cs with
          | '^' :: rest => asciiName? true rest
          | _ => asciiName? false (c :: cs)) = asciiName? false (c :: cs) := by
        split
        · next rest h => exact absurd h (hne rest)
        · rfl
      rw [hright, ascii?]
      · rfl
      · exact hne

theorem suffix_asciiName? {negated : Bool} {cs rest : List Char} {item : ClassExpr}
    (h : asciiName? negated cs = some (item, rest)) : rest <:+ cs := by
  unfold asciiName? at h
  split at h
  · next after hdrop =>
    obtain ⟨kind, -, heq⟩ := Option.map_eq_some_iff.mp h
    cases heq
    have hclosing : ':' :: ']' :: rest <:+ cs := by
      rw [← hdrop]
      exact List.dropWhile_suffix _
    exact ((List.suffix_cons _ _).trans (List.suffix_cons _ _)).trans hclosing
  · cases h

theorem ascii?_eq_none {cs : List Char} (h : ∀ rest, cs ≠ '[' :: ':' :: rest) :
    ascii? cs = none := by
  unfold ascii?
  split
  · exact absurd rfl (h _)
  · rfl

theorem consumes_ascii? : Consumes ascii? := by
  intro cs item rest h
  by_cases hcs : ∃ body, cs = '[' :: ':' :: body
  · obtain ⟨body, rfl⟩ := hcs
    have hbody : rest <:+ body := by
      rw [ascii?_cons] at h
      split at h
      · exact (suffix_asciiName? h).trans (List.suffix_cons _ _)
      · exact suffix_asciiName? h
    exact hbody.trans (List.suffix_cons ':' body)
  · rw [not_exists] at hcs
    rw [ascii?_eq_none hcs] at h
    cases h

theorem consumes_primitive? (verbose : Bool) : Consumes (primitive? verbose) := by
  intro cs p rest h
  unfold primitive? at h
  split at h
  · cases h
  · exact ((Escape.consumes_read? verbose).suffix h)
  · cases h
    exact List.suffix_refl _

/-- The end of a range, whose hyphen is behind. -/
def rangeEnd? (verbose : Bool) (first : Primitive) (cs : List Char) :
    Option (ClassExpr × List Char) := do
  let (second, rest) ← primitive? verbose (skip verbose cs)
  let lo ← first.toLiteral?
  let hi ← second.toLiteral?
  if lo.char ≤ hi.char then some (.range lo hi, rest) else none

/-- An item whose first character has been read; `cs` is what follows it. -/
def itemAfter? (verbose : Bool) (first : Primitive) (cs : List Char) :
    Option (ClassExpr × List Char) :=
  match cs with
  | '-' :: rest =>
    if glance verbose rest = some ']' ∨ glance verbose rest = some '-' then
      (first.toClassExpr?).map (·, '-' :: rest)
    else rangeEnd? verbose first rest
  | rest => (first.toClassExpr?).map (·, rest)

theorem item?_eq (verbose : Bool) (cs : List Char) :
    item? verbose cs =
      (primitive? verbose cs).bind fun p => itemAfter? verbose p.1 (skip verbose p.2) := rfl

/-- A range of which both ends have been read. -/
def rangeTo? (first second : Primitive) (rest : List Char) : Option (ClassExpr × List Char) := do
  let lo ← first.toLiteral?
  let hi ← second.toLiteral?
  if lo.char ≤ hi.char then some (.range lo hi, rest) else none

theorem rangeEnd?_eq (verbose : Bool) (first : Primitive) (cs : List Char) :
    rangeEnd? verbose first cs =
      (primitive? verbose (skip verbose cs)).bind fun p => rangeTo? first p.1 p.2 := rfl

theorem suffix_rangeTo? {first second : Primitive} {cs rest : List Char} {item : ClassExpr}
    (h : rangeTo? first second cs = some (item, rest)) : rest <:+ cs := by
  obtain ⟨lo, -, h⟩ := Option.bind_eq_some_iff.mp h
  obtain ⟨hi, -, h⟩ := Option.bind_eq_some_iff.mp h
  split at h
  · cases h
    exact List.suffix_refl _
  · cases h

theorem suffix_rangeEnd? {verbose : Bool} {first : Primitive} {cs rest : List Char}
    {item : ClassExpr} (h : rangeEnd? verbose first cs = some (item, rest)) : rest <:+ cs := by
  rw [rangeEnd?_eq] at h
  obtain ⟨⟨second, tail⟩, hsecond, h⟩ := Option.bind_eq_some_iff.mp h
  exact (suffix_rangeTo? h).trans
    (((consumes_primitive? verbose).suffix hsecond).trans (suffix_skip verbose cs))

theorem suffix_itemAfter? {verbose : Bool} {first : Primitive} {cs rest : List Char}
    {item : ClassExpr} (h : itemAfter? verbose first cs = some (item, rest)) : rest <:+ cs := by
  unfold itemAfter? at h
  split at h
  · split at h
    · obtain ⟨item, -, heq⟩ := Option.map_eq_some_iff.mp h
      cases heq
      exact List.suffix_refl _
    · exact (suffix_rangeEnd? h).trans (List.suffix_cons _ _)
  · obtain ⟨item, -, heq⟩ := Option.map_eq_some_iff.mp h
    cases heq
    exact List.suffix_refl _

theorem consumes_item? (verbose : Bool) : Consumes (item? verbose) := by
  intro cs item rest h
  rw [item?_eq] at h
  obtain ⟨⟨first, tail⟩, hfirst, hafter⟩ := Option.bind_eq_some_iff.mp h
  exact ((suffix_itemAfter? hafter).trans (suffix_skip verbose tail)).trans
    (consumes_primitive? verbose cs first tail hfirst)

theorem suffix_readFrom {verbose : Bool} {n : Nat} {outer : List Open} {b : Open}
    {cs rest : List Char} {e : Expr} (h : readFrom verbose n outer b cs = some (e, rest)) :
    rest <:+ cs := by
  induction n generalizing outer b cs with
  | zero => cases h
  | succ n ih =>
    have hskip := suffix_skip verbose cs
    rw [readFrom] at h
    split at h
    · cases h
    · next e =>
      rw [e] at hskip
      exact (ih h).trans ((List.suffix_append [_, _] _).trans hskip)
    · next e =>
      rw [e] at hskip
      exact (ih h).trans ((List.suffix_append [_, _] _).trans hskip)
    · next e =>
      rw [e] at hskip
      exact (ih h).trans ((List.suffix_append [_, _] _).trans hskip)
    · next e =>
      rw [e] at hskip
      have hbehind := (List.suffix_cons _ _).trans hskip
      split at h
      · cases h
        exact hbehind
      · exact (ih h).trans hbehind
    · next e =>
      rw [e] at hskip
      split at h
      · next hitem => exact (ih h).trans ((consumes_ascii?.suffix hitem).trans hskip)
      · exact (ih h).trans ((suffix_openAt verbose _).trans ((List.suffix_cons _ _).trans hskip))
    · split at h
      · next hitem => exact (ih h).trans (((consumes_item? verbose).suffix hitem).trans hskip)
      · cases h

theorem suffix_read? {verbose : Bool} {cs rest : List Char} {e : Expr}
    (h : read? verbose cs = some (e, rest)) : rest <:+ cs :=
  (suffix_readFrom h).trans (suffix_openAt verbose cs)

end Bracket

namespace Reader

open Cursor

theorem suffix_flags? {on dangling alone : Bool} {acc changes : FlagChanges} {cs rest : List Char}
    (h : flags? on dangling acc cs = some (changes, alone, rest)) : rest <:+ cs := by
  induction cs generalizing on dangling acc with
  | nil => cases h
  | cons c cs ih =>
    have hlonger := List.suffix_cons c cs
    rw [flags?] at h
    split at h
    · split at h
      · cases h
      · cases h
        exact hlonger
    · split at h
      · split at h
        · exact (ih h).trans hlonger
        · cases h
      · split at h
        · cases h
        · split at h
          · cases h
          · exact (ih h).trans hlonger

theorem suffix_groupName? {cs name rest : List Char} (h : groupName? cs = some (name, rest)) :
    rest <:+ cs := by
  unfold groupName? at h
  split at h
  · next hdrop =>
    split at h
    · cases h
      have hclosing : '>' :: rest <:+ cs := by
        rw [← hdrop]
        exact List.dropWhile_suffix _
      exact (List.suffix_cons _ _).trans hclosing
    · cases h
  · cases h

variable {r r' : Reader} {cs rest : List Char}

theorem suffix_enterNamed? (h : r.enterNamed? cs = some (r', rest)) : rest <:+ cs := by
  unfold enterNamed? at h
  split at h
  · cases h
  · next hname =>
    split at h
    · cases h
    · cases h
      exact suffix_groupName? hname

theorem suffix_openFlags? (h : r.openFlags? cs = some (r', rest)) : rest <:+ cs := by
  unfold openFlags? at h
  split at h
  · cases h
  · next hflags =>
    dsimp only at h
    split at h
    · split at h
      · cases h
      · cases h
        exact suffix_flags? hflags
    · cases h
      exact suffix_flags? hflags

theorem suffix_open? (h : r.open? cs = some (r', rest)) : rest <:+ cs := by
  have hskip := suffix_skip r.verbose cs
  unfold open? at h
  split at h
  · cases h
  · cases h
  · cases h
  · cases h
  · next e =>
    rw [e] at hskip
    exact (suffix_enterNamed? h).trans ((List.suffix_append [_, _, _] _).trans hskip)
  · next e =>
    rw [e] at hskip
    exact (suffix_enterNamed? h).trans ((List.suffix_append [_, _] _).trans hskip)
  · next e =>
    rw [e] at hskip
    exact (suffix_openFlags? h).trans ((List.suffix_cons _ _).trans hskip)
  · cases h
    exact hskip

/-- Whether a repetition is greedy, and what stands behind it. -/
def greed (cs : List Char) : Bool × List Char :=
  match cs with
  | '?' :: rest => (false, rest)
  | _ => (true, cs)

def repeatWith? (r : Reader) (min : Nat) (max : Option Nat) (greedy : Bool) (rest : List Char) :
    Option (Reader × List Char) :=
  match r.body.factors with
  | [] | .flags _ :: _ => none
  | factor :: factors =>
    some ({ r with body := ⟨.repetition min max greedy factor :: factors, r.body.branches⟩ }, rest)

theorem repeat?_eq (r : Reader) (min : Nat) (max : Option Nat) (cs : List Char) :
    r.repeat? min max cs = r.repeatWith? min max (greed cs).1 (greed cs).2 := rfl

theorem suffix_greed (cs : List Char) : (greed cs).2 <:+ cs := by
  unfold greed
  split
  · exact List.suffix_cons _ _
  · exact List.suffix_refl _

theorem suffix_repeat? {min : Nat} {max : Option Nat} (h : r.repeat? min max cs = some (r', rest)) :
    rest <:+ cs := by
  rw [repeat?_eq, repeatWith?] at h
  split at h
  · cases h
  · cases h
  · cases h
    exact suffix_greed cs

/-- The upper bound behind a comma. -/
def upper? (verbose : Bool) (min : Nat) (cs : List Char) :
    Option (Nat × Option Nat × List Char) :=
  match cs with
  | '\x7d' :: rest => some (min, none, '\x7d' :: rest)
  | rest => do
    let (max, rest) ← decimal? verbose rest
    some (min, some max, rest)

/-- The bounds whose lower one has been read. -/
def boundsAfter? (verbose : Bool) (min : Nat) (cs : List Char) :
    Option (Nat × Option Nat × List Char) :=
  match cs with
  | ',' :: rest => upper? verbose min (skip verbose rest)
  | rest => some (min, some min, rest)

theorem bounds?_eq (verbose : Bool) (cs : List Char) :
    bounds? verbose cs =
      (decimal? verbose (skip verbose cs)).bind fun (min, rest) =>
        boundsAfter? verbose min rest := rfl

theorem suffix_upper? {verbose : Bool} {min low : Nat} {max : Option Nat}
    (h : upper? verbose min cs = some (low, max, rest)) : rest <:+ cs := by
  unfold upper? at h
  split at h
  · cases h
    exact List.suffix_refl _
  · obtain ⟨⟨value, tail⟩, hvalue, heq⟩ := Option.bind_eq_some_iff.mp h
    cases heq
    exact suffix_decimal? hvalue

theorem suffix_boundsAfter? {verbose : Bool} {min low : Nat} {max : Option Nat}
    (h : boundsAfter? verbose min cs = some (low, max, rest)) : rest <:+ cs := by
  unfold boundsAfter? at h
  split at h
  · exact (suffix_upper? h).trans ((suffix_skip verbose _).trans (List.suffix_cons _ _))
  · cases h
    exact List.suffix_refl _

theorem suffix_bounds? {verbose : Bool} {min : Nat} {max : Option Nat}
    (h : bounds? verbose cs = some (min, max, rest)) : rest <:+ cs := by
  rw [bounds?_eq] at h
  obtain ⟨⟨low, tail⟩, hlow, hafter⟩ := Option.bind_eq_some_iff.mp h
  exact (suffix_boundsAfter? hafter).trans ((suffix_decimal? hlow).trans (suffix_skip verbose cs))

theorem suffix_counted? (h : r.counted? cs = some (r', rest)) : rest <:+ cs := by
  unfold counted? at h
  split at h
  · next hbounds =>
    split at h
    · exact (suffix_repeat? h).trans
        ((suffix_skip r.verbose _).trans ((List.suffix_cons _ _).trans (suffix_bounds? hbounds)))
    · cases h
  · cases h

/-- Every step takes its first character. -/
theorem suffix_step? {c : Char} (h : r.step? c cs = some (r', rest)) : rest <:+ cs := by
  unfold step? at h
  split at h
  · exact suffix_open? h
  · obtain ⟨s, -, heq⟩ := Option.map_eq_some_iff.mp h
    cases heq
    exact List.suffix_refl _
  · cases h
    exact List.suffix_refl _
  · obtain ⟨⟨factor, tail⟩, hfactor, heq⟩ := Option.map_eq_some_iff.mp h
    cases heq
    exact Bracket.suffix_read? hfactor
  · exact suffix_repeat? h
  · exact suffix_repeat? h
  · exact suffix_repeat? h
  · exact suffix_counted? h
  · obtain ⟨⟨p, tail⟩, hp, heq⟩ := Option.map_eq_some_iff.mp h
    cases heq
    exact (Escape.consumes_read? r.verbose).suffix hp
  · cases h
    exact List.suffix_refl _
  · cases h
    exact List.suffix_refl _
  · cases h
    exact List.suffix_refl _
  · cases h
    exact List.suffix_refl _

end Reader

end InvertedIndex.Pattern
