import InvertedIndex.Proofs.Pattern.Anchor.Bracket

namespace InvertedIndex.Pattern

/-- The group between the anchors, as it stands open while the text in it is read. -/
def anchorGroup : OpenGroup := ⟨.plain [], ⟨[.assertion .lineStart], []⟩, false⟩

namespace Reader

open Cursor

/-- The reader that has the opening anchor behind it. -/
def inside (r : Reader) : Reader := { r with enclosing := r.enclosing ++ [anchorGroup] }

theorem enclosing_inside_ne_nil (r : Reader) : r.inside.enclosing ≠ [] := by
  simp [inside]

/-- Reading on comes to nothing. -/
def Lost (r : Reader) (cs : List Char) : Prop := ∀ n, readFrom n r cs = none

theorem lost_of_step {r : Reader} {cs rest : List Char} {c : Char}
    (hskip : skip r.verbose cs = c :: rest)
    (h : ∀ r' rest', r.step? c rest = some (r', rest') → Lost r' rest') : Lost r cs := by
  intro n
  cases n with
  | zero => rfl
  | succ n =>
    rw [readFrom, hskip]
    dsimp only
    split
    · rfl
    · next r' rest' hstep => exact h r' rest' hstep n

/-- A text that ends in an open group is no pattern. -/
theorem lost_of_end {r : Reader} (hopen : r.enclosing ≠ []) {cs : List Char}
    (hskip : skip r.verbose cs = []) : Lost r cs := by
  intro n
  cases n with
  | zero => rfl
  | succ n =>
    rw [readFrom, hskip]
    simp [finish?, hopen]

/-- A group that is open when the anchor is behind stays open. -/
theorem lost_of_spent {r : Reader} (hopen : r.enclosing ≠ []) {cs : List Char} (h : Spent cs) :
    Lost r cs := by
  have hnil (verbose : Bool) : skip verbose [] = [] := List.suffix_nil.mp (suffix_skip verbose [])
  rcases List.suffix_cons_iff.mp h with rfl | hsuffix
  · have hskip : skip r.verbose ['$'] = ['$'] := by
      cases r.verbose with
      | true => decide +kernel
      | false => rfl
    apply lost_of_step hskip
    intro r' rest' hstep
    cases hstep
    exact lost_of_end (r := r.push (.assertion .lineEnd)) hopen (hnil _)
  · rw [List.suffix_nil.mp hsuffix]
    exact lost_of_end hopen (hnil _)

/-- A brace right before the anchor holds no bounds. -/
theorem lost_of_strayBrace {r : Reader} {cs : List Char} (h : Escape.StrayBrace r.verbose cs) :
    Lost r cs := by
  obtain ⟨rest, rfl, hrest⟩ := h
  have hskip : skip r.verbose ('\x7b' :: rest) = '\x7b' :: rest := by
    cases r.verbose with
    | true =>
      have hblank : Unicode.isBlank '\x7b' = false := by decide +kernel
      simp [skip, dropRemarks, hblank]
    | false => rfl
  have hdecimal : decimal? r.verbose [')', '$'] = none := by
    cases r.verbose <;> decide +kernel
  have hbounds : bounds? r.verbose rest = none := by
    rw [bounds?_eq, hrest, hdecimal]
    rfl
  apply lost_of_step hskip
  intro r' rest' hstep
  simp only [step?, counted?, hbounds] at hstep
  cases hstep

/-- How steps on the anchored text compare with steps on the bare one, by readers that differ in the
opening anchor only: both are taken, neither is, or the one on the anchored text comes to nothing. -/
inductive AlikeInside : Option (Reader × List Char) → Option (Reader × List Char) → Prop
  | both {r : Reader} {rest rest' : List Char} (h : Anchored rest rest') :
      AlikeInside (some (r, rest)) (some (r.inside, rest'))
  | neither : AlikeInside none none
  | lost {r : Reader} {rest' : List Char} (h : Lost r rest') : AlikeInside none (some (r, rest'))

theorem AlikeInside.eq_some {r : Reader} {rest : List Char} {anchored : Option (Reader × List Char)}
    (h : AlikeInside (some (r, rest)) anchored) :
    ∃ rest', anchored = some (r.inside, rest') ∧ Anchored rest rest' := by
  cases h with
  | both h => exact ⟨_, rfl, h⟩

theorem alikeInside_of_alike {α : Type} {bare anchored : Option (α × List Char)}
    (h : Alike bare anchored) {f g : α → Reader} (hg : ∀ x, g x = (f x).inside) :
    AlikeInside (bare.map fun (x, rest) => (f x, rest))
      (anchored.map fun (x, rest) => (g x, rest)) := by
  cases h with
  | both h =>
    simp only [Option.map_some, hg]
    exact .both h
  | neither => exact .neither
  | spent h =>
    simp only [Option.map_none, Option.map_some, hg]
    exact .lost (lost_of_spent (enclosing_inside_ne_nil _) h)

/-- What has been read, in one piece, and the rest. -/
def inOne {α β : Type} (found : α × β × List Char) : (α × β) × List Char :=
  ((found.1, found.2.1), found.2.2)

/-- Flags that the bare text leaves open are ended by the anchor. -/
theorem alike_flags? (on dangling : Bool) (acc : FlagChanges) (cs : List Char) :
    Alike ((flags? on dangling acc cs).map inOne)
      ((flags? on dangling acc (cs ++ [')', '$'])).map inOne) := by
  induction cs generalizing on dangling acc with
  | nil =>
    rw [List.nil_append, flags?, flags?, if_pos (.inr rfl)]
    split
    · exact .neither
    · exact .spent (List.suffix_refl _)
  | cons c cs ih =>
    rw [List.cons_append, flags?, flags?]
    split
    · split
      · exact .neither
      · exact .both (anchored_append cs)
    · split
      · split
        · exact ih false true acc
        · exact .neither
      · cases flagNamed? c with
        | none => exact .neither
        | some flag =>
          simp only
          split
          · exact .neither
          · exact ih on false _

/-- The anchor neither ends a name nor is a part of one. -/
theorem groupName?_append_closing (cs : List Char) :
    groupName? (cs ++ [')', '$']) =
      (groupName? cs).map fun (name, rest) => (name, rest ++ [')', '$']) := by
  have hdrop := dropWhile_append_closing (c := '>') (by decide) (by decide) cs
  by_cases hcs : cs.dropWhile (· != '>') = []
  · rw [if_pos hcs] at hdrop
    simp [groupName?, hdrop, hcs]
  · rw [if_neg hcs] at hdrop
    have htake := takeWhile_append_of_ne_nil hcs [')', '$']
    cases e : cs.dropWhile (· != '>') with
    | nil => exact absurd e hcs
    | cons d rest =>
      rw [e] at hdrop
      unfold groupName?
      rw [htake, hdrop, e]
      cases cs.takeWhile (· != '>') with
      | nil => rfl
      | cons c name =>
        by_cases hd : d = '>'
        · subst hd
          simp only [List.cons_append]
          split <;> rfl
        · simp [hd]

theorem alikeInside_enterNamed? (r : Reader) (cs : List Char) :
    AlikeInside (r.enterNamed? cs) (r.inside.enterNamed? (cs ++ [')', '$'])) := by
  unfold enterNamed?
  rw [groupName?_append_closing]
  cases groupName? cs with
  | none => exact .neither
  | some found =>
    obtain ⟨name, rest⟩ := found
    have hnames : r.inside.names = r.names := rfl
    simp only [Option.map_some, hnames]
    split
    · exact .neither
    · exact .both (anchored_append rest)

theorem alikeInside_openFlags? (r : Reader) (cs : List Char) :
    AlikeInside (r.openFlags? cs) (r.inside.openFlags? (cs ++ [')', '$'])) := by
  have hflags := alike_flags? true false [] cs
  have hverbose : r.inside.verbose = r.verbose := rfl
  unfold openFlags?
  rw [hverbose]
  cases e : flags? true false [] cs with
  | none =>
    cases e' : flags? true false [] (cs ++ [')', '$']) with
    | none => exact .neither
    | some found =>
      obtain ⟨changes, alone, rest'⟩ := found
      rw [e, e'] at hflags
      have hspent : Spent rest' := hflags.spent_of_none
      simp only
      split
      · split
        · exact .neither
        · refine .lost (lost_of_spent ?_ hspent)
          exact enclosing_inside_ne_nil r
      · exact .lost (lost_of_spent (List.cons_ne_nil _ _) hspent)
  | some found =>
    obtain ⟨changes, alone, rest⟩ := found
    rw [e] at hflags
    obtain ⟨rest', h', hrest⟩ := hflags.eq_some
    obtain ⟨found', e', hfound⟩ := Option.map_eq_some_iff.mp h'
    cases hfound
    rw [e']
    simp only
    split
    · split
      · exact .neither
      · exact .both hrest
    · exact .both hrest

theorem alikeInside_open? (r : Reader) {cs cs' : List Char} (h : Anchored cs cs') :
    AlikeInside (r.open? cs) (r.inside.open? cs') := by
  have hskip := anchored_skip r.verbose h
  have hverbose : r.inside.verbose = r.verbose := rfl
  unfold open?
  rw [hverbose]
  split
  · next e =>
    rw [skip_eq_cons_of_anchored h e]
    exact .neither
  · next e =>
    rw [skip_eq_cons_of_anchored h e]
    exact .neither
  · next e =>
    rw [skip_eq_cons_of_anchored h e]
    exact .neither
  · next e =>
    rw [skip_eq_cons_of_anchored h e]
    exact .neither
  · next rest e =>
    rw [skip_eq_cons_of_anchored h e]
    exact alikeInside_enterNamed? r rest
  · next rest hequal hnot e =>
    rw [skip_eq_cons_of_anchored h e]
    have hrest := anchored_append rest
    split
    · next e => cases e
    · next e => cases e
    · next e =>
      exact absurd (by simpa using e) (ne_cons_of_anchored (by decide) hrest hequal _)
    · next e =>
      exact absurd (by simpa using e) (ne_cons_of_anchored (by decide) hrest hnot _)
    · next e => cases e
    · next e =>
      cases e
      exact alikeInside_enterNamed? r rest
    · next hne e => exact absurd (List.cons.inj e).2.symm (hne _)
    · next hne => exact absurd rfl (hne _)
  · next rest hequal hnot _ _ hnamed hbehind e =>
    rw [skip_eq_cons_of_anchored h e]
    have hrest := anchored_append rest
    have hbehind' := ne_cons_of_anchored (by decide) hrest hbehind
    split
    · next e => exact absurd (List.cons.inj e).2 (ne_cons_of_anchored (by decide) hrest hequal _)
    · next e => exact absurd (List.cons.inj e).2 (ne_cons_of_anchored (by decide) hrest hnot _)
    · next e => exact absurd (List.cons.inj e).2 (hbehind' _)
    · next e => exact absurd (List.cons.inj e).2 (hbehind' _)
    · next e =>
      exact absurd (List.cons.inj e).2
        (ne_cons_cons_of_anchored (by decide) (by decide) hrest hnamed _)
    · next e => exact absurd (List.cons.inj e).2 (hbehind' _)
    · next e =>
      cases e
      exact alikeInside_openFlags? r rest
    · next hne => exact absurd rfl (hne _)
  · next hne =>
    have hne' := ne_cons_of_anchored (by decide) hskip hne
    split
    · next e => exact absurd e (hne' _)
    · next e => exact absurd e (hne' _)
    · next e => exact absurd e (hne' _)
    · next e => exact absurd e (hne' _)
    · next e => exact absurd e (hne' _)
    · next e => exact absurd e (hne' _)
    · next e => exact absurd e (hne' _)
    · exact .both hskip

theorem alikeInside_repeatWith? (r : Reader) (min : Nat) (max : Option Nat) (greedy : Bool)
    {rest rest' : List Char} (h : Anchored rest rest') :
    AlikeInside (r.repeatWith? min max greedy rest) (r.inside.repeatWith? min max greedy rest') := by
  have hbody : r.inside.body = r.body := rfl
  unfold repeatWith?
  rw [hbody]
  split
  · exact .neither
  · exact .neither
  · exact .both h

theorem greed_of_ne {cs : List Char} (h : ∀ rest, cs ≠ '?' :: rest) : greed cs = (true, cs) := by
  unfold greed
  split
  · exact absurd rfl (h _)
  · rfl

theorem alikeInside_repeat? (r : Reader) (min : Nat) (max : Option Nat) {cs cs' : List Char}
    (h : Anchored cs cs') :
    AlikeInside (r.repeat? min max cs) (r.inside.repeat? min max cs') := by
  rw [repeat?_eq, repeat?_eq]
  by_cases hcs : ∃ rest, cs = '?' :: rest
  · obtain ⟨rest, rfl⟩ := hcs
    cases eq_of_anchored_cons h
    exact alikeInside_repeatWith? r min max false (anchored_append rest)
  · rw [not_exists] at hcs
    rw [greed_of_ne hcs, greed_of_ne (ne_cons_of_anchored (by decide) h hcs)]
    exact alikeInside_repeatWith? r min max true h

theorem alike_upper? (verbose : Bool) (min : Nat) {cs cs' : List Char} (h : Anchored cs cs') :
    Alike ((upper? verbose min cs).map inOne) ((upper? verbose min cs').map inOne) := by
  by_cases hcs : ∃ tail, cs = '\x7d' :: tail
  · obtain ⟨tail, rfl⟩ := hcs
    cases eq_of_anchored_cons h
    exact .both (anchored_append ('\x7d' :: tail))
  · rw [not_exists] at hcs
    have hbound (cs : List Char) (hcs : ∀ tail, cs ≠ '\x7d' :: tail) :
        (upper? verbose min cs).map inOne =
          (decimal? verbose cs).map fun found => ((min, some found.1), found.2) := by
      unfold upper?
      split
      · exact absurd rfl (hcs _)
      · cases decimal? verbose cs <;> rfl
    rw [hbound cs hcs, hbound cs' (ne_cons_of_anchored (by decide) h hcs)]
    exact (alike_decimal? verbose h).map fun max => (min, some max)

theorem alike_boundsAfter? (verbose : Bool) (min : Nat) {cs cs' : List Char} (h : Anchored cs cs') :
    Alike ((boundsAfter? verbose min cs).map inOne) ((boundsAfter? verbose min cs').map inOne) := by
  by_cases hcs : ∃ tail, cs = ',' :: tail
  · obtain ⟨tail, rfl⟩ := hcs
    cases eq_of_anchored_cons h
    exact alike_upper? verbose min (anchored_skip verbose (anchored_append tail))
  · rw [not_exists] at hcs
    have hsingle (cs : List Char) (hcs : ∀ tail, cs ≠ ',' :: tail) :
        boundsAfter? verbose min cs = some (min, some min, cs) := by
      unfold boundsAfter?
      split
      · exact absurd rfl (hcs _)
      · rfl
    rw [hsingle cs hcs, hsingle cs' (ne_cons_of_anchored (by decide) h hcs)]
    exact .both h

theorem alike_bounds? (verbose : Bool) {cs cs' : List Char} (h : Anchored cs cs') :
    Alike ((bounds? verbose cs).map inOne) ((bounds? verbose cs').map inOne) := by
  rw [bounds?_eq, bounds?_eq, Option.map_bind, Option.map_bind]
  refine (alike_decimal? verbose (anchored_skip verbose h)).bind ?_ ?_
  · intro min rest rest' hrest
    exact alike_boundsAfter? verbose min hrest
  · intro min rest bounds tail e
    obtain ⟨found, hfound, heq⟩ := Option.map_eq_some_iff.mp e
    cases heq
    exact suffix_boundsAfter? hfound

theorem counted?_eq_none {r : Reader} {cs : List Char}
    (h : ∀ min max rest, bounds? r.verbose cs ≠ some (min, max, '\x7d' :: rest)) :
    r.counted? cs = none := by
  unfold counted?
  split
  · next e => exact absurd e (h _ _ _)
  · rfl

theorem alikeInside_counted? (r : Reader) {cs cs' : List Char} (h : Anchored cs cs') :
    AlikeInside (r.counted? cs) (r.inside.counted? cs') := by
  have hbounds := alike_bounds? r.verbose h
  cases e : bounds? r.verbose cs with
  | none =>
    rw [e] at hbounds
    have hbare : r.counted? cs = none := counted?_eq_none fun _ _ _ h => by rw [e] at h; cases h
    have hanchored : r.inside.counted? cs' = none := by
      refine counted?_eq_none fun min max rest h => ?_
      rw [show bounds? r.verbose cs' = _ from h] at hbounds
      have hspent : Spent ('\x7d' :: rest) := hbounds.spent_of_none
      simp [Spent, List.suffix_cons_iff] at hspent
    rw [hbare, hanchored]
    exact .neither
  | some found =>
    obtain ⟨min, max, rest⟩ := found
    rw [e] at hbounds
    obtain ⟨rest', h', hrest⟩ := hbounds.eq_some
    obtain ⟨⟨_, _, tail'⟩, e', hfound⟩ := Option.map_eq_some_iff.mp h'
    cases hfound
    replace hrest : Anchored rest tail' := hrest
    by_cases hclosed : ∃ tail, rest = '\x7d' :: tail
    · obtain ⟨tail, rfl⟩ := hclosed
      rw [eq_of_anchored_cons hrest] at e'
      have hverbose : r.inside.verbose = r.verbose := rfl
      unfold counted?
      rw [hverbose, e, e']
      simp only
      split
      · exact alikeInside_repeat? r min max (anchored_skip r.verbose (anchored_append tail))
      · exact .neither
    · rw [not_exists] at hclosed
      have hopen := ne_cons_of_anchored (by decide) hrest hclosed
      have hbare : r.counted? cs = none := by
        refine counted?_eq_none fun _ _ tail h => ?_
        rw [e] at h
        cases h
        exact hclosed _ rfl
      have hanchored : r.inside.counted? cs' = none := by
        refine counted?_eq_none fun _ _ tail h => ?_
        rw [show bounds? r.inside.verbose cs' = _ from e'] at h
        cases h
        exact hopen _ rfl
      rw [hbare, hanchored]
      exact .neither

/-- Unless a group is closed that was not opened, every part of the anchored text is a part of the
bare one. -/
theorem alikeInside_step? (r : Reader) {c : Char} (hc : c = ')' → r.enclosing ≠ [])
    {cs cs' : List Char} (h : Anchored cs cs') :
    AlikeInside (r.step? c cs) (r.inside.step? c cs') := by
  have hpush (x : Expr) : r.inside.push x = (r.push x).inside := rfl
  unfold step?
  split
  · exact alikeInside_open? r h
  · cases henclosing : r.enclosing with
    | nil => exact absurd henclosing (hc rfl)
    | cons g enclosing =>
      simp only [close?, inside, henclosing, List.cons_append, Option.map_some]
      exact .both h
  · exact .both h
  · exact alikeInside_of_alike (Bracket.alike_read? r.verbose h) fun _ => rfl
  · exact alikeInside_repeat? r 0 (some 1) h
  · exact alikeInside_repeat? r 0 none h
  · exact alikeInside_repeat? r 1 none h
  · exact alikeInside_counted? r h
  · rcases Escape.alikeEscape_read? r.verbose h with hread | ⟨hbare, rest', hread, hbrace⟩
    · exact alikeInside_of_alike (f := fun p => r.push p.toExpr)
        (g := fun p => r.inside.push p.toExpr) hread fun _ => rfl
    · have hverbose : r.inside.verbose = r.verbose := rfl
      rw [hverbose, hbare, hread]
      exact .lost (lost_of_strayBrace hbrace)
  · exact .both h
  · exact .both h
  · exact .both h
  · exact .both h

/-- Reading the text comes to a closing parenthesis while no group is open. -/
def meetsStray : Nat → Reader → List Char → Bool
  | 0, _, _ => false
  | fuel + 1, r, cs =>
    match skip r.verbose cs with
    | [] => false
    | c :: rest =>
      if c = ')' ∧ r.enclosing.isEmpty then true
      else
        match r.step? c rest with
        | none => false
        | some (r, rest) => meetsStray fuel r rest

/-- Reading stops at a closing parenthesis for which no group is open. -/
theorem readFrom_of_meetsStray {n : Nat} {r : Reader} {cs : List Char}
    (h : meetsStray n r cs = true) : readFrom n r cs = none := by
  induction n generalizing r cs with
  | zero => cases h
  | succ n ih =>
    rw [meetsStray] at h
    rw [readFrom]
    cases e : skip r.verbose cs with
    | nil =>
      rw [e] at h
      cases h
    | cons c rest =>
      rw [e] at h
      simp only at h ⊢
      by_cases hstray : c = ')' ∧ r.enclosing.isEmpty = true
      · obtain ⟨rfl, hempty⟩ := hstray
        have hclose : r.close? = none := by
          rw [close?, List.isEmpty_iff.mp hempty]
        simp only [step?, hclose, Option.map_none]
      · rw [if_neg hstray] at h
        cases hstep : r.step? c rest with
        | none => rfl
        | some found =>
          rw [hstep] at h
          exact ih h

/-- The closing anchor closes the group that stands around the text. -/
theorem readFrom_closing {n : Nat} {r : Reader} (henclosing : r.enclosing = []) {e : Expr}
    (he : r.body.result = e) (hn : 3 ≤ n) {cs : List Char} (hskip : skip r.verbose cs = [')', '$']) :
    readFrom n r.inside cs =
      some (.concat [.assertion .lineStart, .group (.plain []) e, .assertion .lineEnd]) := by
  obtain ⟨m, rfl⟩ : ∃ m, n = m + 3 := ⟨n - 3, by omega⟩
  have hverbose : r.inside.verbose = r.verbose := rfl
  rw [readFrom, hverbose, hskip]
  simp only [step?, close?, inside, henclosing, List.nil_append, anchorGroup, Option.map_some]
  subst he
  rfl

/-- Where the bare text has ended, only a reader without open groups gets past the anchor. -/
theorem lost_of_enclosing {r : Reader} (hopen : r.enclosing ≠ []) {cs : List Char}
    (h : Anchored [] (skip r.verbose cs)) : Lost r.inside cs := by
  rcases h with hclosing | ⟨-, hnil⟩
  · obtain ⟨g, enclosing, henclosing⟩ := List.exists_cons_of_ne_nil hopen
    apply lost_of_step (r := r.inside) hclosing
    intro r' rest' hstep
    simp only [step?, close?, inside, henclosing, List.cons_append, Option.map_some] at hstep
    cases hstep
    exact lost_of_spent (by simp) (List.suffix_refl _)
  · exact lost_of_end (enclosing_inside_ne_nil r) hnil

/-- The inside of the anchored text is read like the bare text, up to the closing anchor, unless the
bare text closes a group that was not opened. -/
theorem readFrom_inside {n n' : Nat} {r : Reader} {cs cs' : List Char} (h : Anchored cs cs')
    (hn : cs.length < n) (hn' : n + 2 ≤ n') (hstray : meetsStray n r cs = false) {anchored : Expr}
    (ha : readFrom n' r.inside cs' = some anchored) :
    ∃ e, readFrom n r cs = some e ∧
      anchored = .concat [.assertion .lineStart, .group (.plain []) e, .assertion .lineEnd] := by
  induction n generalizing n' r cs cs' with
  | zero => exact absurd hn (Nat.not_lt_zero _)
  | succ n ih =>
    have hskip := anchored_skip r.verbose h
    have hle := length_skip_le r.verbose cs
    have hverbose : r.inside.verbose = r.verbose := rfl
    obtain ⟨m, rfl⟩ : ∃ m, n' = m + 1 := ⟨n' - 1, by omega⟩
    rw [meetsStray] at hstray
    rw [readFrom]
    cases e : skip r.verbose cs with
    | nil =>
      rw [e] at hskip
      by_cases hopen : r.enclosing = []
      · rcases hskip with hclosing | ⟨-, hnil⟩
        · rw [readFrom_closing hopen rfl (by omega) hclosing] at ha
          exact ⟨r.body.result, by simp [finish?, hopen], (Option.some.inj ha).symm⟩
        · -- A comment took the closing anchor, so the group is never closed.
          rw [lost_of_end (enclosing_inside_ne_nil r) hnil] at ha
          cases ha
      · rw [lost_of_enclosing hopen hskip] at ha
        cases ha
    | cons c rest =>
      rw [e] at hstray hle
      rw [readFrom, hverbose, skip_eq_cons_of_anchored h e] at ha
      simp only at hstray ha
      split at hstray
      · cases hstray
      · next hnot =>
        have hc : c = ')' → r.enclosing ≠ [] := by
          rintro rfl hempty
          exact hnot ⟨rfl, List.isEmpty_iff.mpr hempty⟩
        have hstep := alikeInside_step? r hc (anchored_append rest)
        simp only
        cases e₁ : r.step? c rest with
        | none =>
          rw [e₁] at hstep
          cases e₂ : r.inside.step? c (rest ++ [')', '$']) with
          | none => simp [e₂] at ha
          | some found =>
            rw [e₂] at hstep ha
            cases hstep with
            | lost hlost => simp [hlost m] at ha
        | some found =>
          obtain ⟨r₁, rest₁⟩ := found
          have hshort := (suffix_step? e₁).length_le
          rw [e₁] at hstep hstray
          rw [List.length_cons] at hle
          obtain ⟨rest₁', e₂, hrest₁⟩ := hstep.eq_some
          rw [e₂] at ha
          exact ih hrest₁ (by omega) (by omega) hstray ha

end Reader

end InvertedIndex.Pattern
