import InvertedIndex.Pattern
import InvertedIndex.Proofs.Pattern.Consumption

namespace InvertedIndex.Pattern

/-- `cs'` goes on like `cs` and ends in the closing anchor, unless a comment took the anchor. -/
def Anchored (cs cs' : List Char) : Prop := cs' = cs ++ [')', '$'] ∨ cs = [] ∧ cs' = []

theorem anchored_append (cs : List Char) : Anchored cs (cs ++ [')', '$']) := .inl rfl

theorem eq_of_anchored_cons {c : Char} {cs cs' : List Char} (h : Anchored (c :: cs) cs') :
    cs' = c :: (cs ++ [')', '$']) := by
  rcases h with rfl | ⟨h, -⟩
  · rfl
  · cases h

theorem length_le_of_anchored {cs cs' : List Char} (h : Anchored cs cs') :
    cs.length ≤ cs'.length := by
  rcases h with rfl | ⟨rfl, -⟩
  · simp
  · simp

/-- The anchored text starts with a character other than the anchor's only if the bare text does. -/
theorem ne_cons_of_anchored {c : Char} (hc : c ≠ ')') {cs cs' : List Char} (h : Anchored cs cs')
    (hcs : ∀ rest, cs ≠ c :: rest) (rest : List Char) : cs' ≠ c :: rest := by
  cases cs with
  | nil =>
    rcases h with rfl | ⟨-, rfl⟩
    · simp [hc.symm]
    · simp
  | cons d cs =>
    cases eq_of_anchored_cons h
    intro e
    cases e
    exact hcs cs rfl

theorem ne_cons_cons_of_anchored {c d : Char} (hc : c ≠ ')') (hd : d ≠ ')') {cs cs' : List Char}
    (h : Anchored cs cs') (hcs : ∀ rest, cs ≠ c :: d :: rest) (rest : List Char) :
    cs' ≠ c :: d :: rest := by
  by_cases hfirst : ∃ tail, cs = c :: tail
  · obtain ⟨tail, rfl⟩ := hfirst
    rw [eq_of_anchored_cons h]
    intro e
    exact ne_cons_of_anchored hd (anchored_append tail) (fun rest e => hcs rest (by rw [e])) rest
      (List.cons.inj e).2
  · rw [not_exists] at hfirst
    exact ne_cons_of_anchored hc h hfirst (d :: rest)

/-- What can be left of an anchored text once its closing parenthesis has been read. -/
def Spent (cs : List Char) : Prop := cs <:+ ['$']

/-- How reading the anchored text compares with reading the bare one: both are read alike, neither can
be read, or the bare text is malformed and the anchored one was read as far as into the anchor. -/
inductive Alike {α : Type} : Option (α × List Char) → Option (α × List Char) → Prop
  | both {x : α} {rest rest' : List Char} (h : Anchored rest rest') :
      Alike (some (x, rest)) (some (x, rest'))
  | neither : Alike none none
  | spent {x : α} {rest' : List Char} (h : Spent rest') : Alike none (some (x, rest'))

namespace Alike

variable {α β : Type} {bare anchored : Option (α × List Char)}

theorem of_spent (h : ∀ x rest', anchored = some (x, rest') → Spent rest') : Alike none anchored := by
  cases anchored with
  | none => exact .neither
  | some found => exact .spent (h found.1 found.2 rfl)

theorem eq_some {x : α} {rest : List Char} (h : Alike (some (x, rest)) anchored) :
    ∃ rest', anchored = some (x, rest') ∧ Anchored rest rest' := by
  cases h with
  | both h => exact ⟨_, rfl, h⟩

theorem spent_of_none {x : α} {rest' : List Char} (h : Alike none (some (x, rest'))) :
    Spent rest' := by
  cases h with
  | spent h => exact h

/-- Where the bare text has ended, a part of the anchored text reaches into the anchor. -/
theorem of_nil {read : List Char → Option (α × List Char)} (hread : Consumes read)
    {cs' : List Char} (h : Anchored [] cs') : Alike none (read cs') := by
  apply of_spent
  intro x rest' e
  have hrest := hread cs' x rest' e
  rcases h with rfl | ⟨-, rfl⟩
  · exact hrest
  · exact hrest.trans List.nil_suffix

/-- Two reads one after the other are alike if each is. -/
theorem bind (h : Alike bare anchored) {f : α × List Char → Option (β × List Char)}
    (hf : ∀ x rest rest', Anchored rest rest' → Alike (f (x, rest)) (f (x, rest')))
    (hrest : ∀ x rest y tail, f (x, rest) = some (y, tail) → tail <:+ rest) :
    Alike (bare.bind f) (anchored.bind f) := by
  cases h with
  | both h => exact hf _ _ _ h
  | neither => exact .neither
  | spent h => exact .of_spent fun y tail e => (hrest _ _ y tail e).trans h

theorem map (h : Alike bare anchored) (f : α → β) :
    Alike (bare.map fun (x, rest) => (f x, rest)) (anchored.map fun (x, rest) => (f x, rest)) := by
  cases h with
  | both h => exact .both h
  | neither => exact .neither
  | spent h => exact .spent h

end Alike

namespace Cursor

/-- Only a comment that is still open at the end takes the anchor with it. -/
theorem anchored_dropRemarks (inComment : Bool) {cs cs' : List Char} (h : Anchored cs cs') :
    Anchored (dropRemarks inComment cs) (dropRemarks inComment cs') := by
  induction cs generalizing inComment cs' with
  | nil =>
    rcases h with rfl | ⟨-, rfl⟩
    · cases inComment with
      | true => exact .inr ⟨rfl, rfl⟩
      | false => exact .inl rfl
    · exact .inr ⟨by cases inComment <;> rfl, by cases inComment <;> rfl⟩
  | cons c cs ih =>
    cases eq_of_anchored_cons h
    cases inComment with
    | true => exact ih _ (anchored_append cs)
    | false =>
      simp only [dropRemarks]
      split
      · exact ih _ (anchored_append cs)
      · split
        · exact ih _ (anchored_append cs)
        · exact anchored_append (c :: cs)

theorem anchored_skip (verbose : Bool) {cs cs' : List Char} (h : Anchored cs cs') :
    Anchored (skip verbose cs) (skip verbose cs') := by
  cases verbose with
  | true => exact anchored_dropRemarks false h
  | false => exact h

theorem skip_eq_cons_of_anchored {verbose : Bool} {c : Char} {cs cs' rest : List Char}
    (h : Anchored cs cs') (e : skip verbose cs = c :: rest) :
    skip verbose cs' = c :: (rest ++ [')', '$']) := by
  have hskip := anchored_skip verbose h
  rw [e] at hskip
  exact eq_of_anchored_cons hskip

theorem takeRun_nil (verbose : Bool) (p : Char → Bool) (n : Nat) :
    takeRun verbose p n [] = ([], []) := by
  cases n <;> rfl

/-- A run does not go into the closing anchor. -/
theorem takeRun_closing (verbose : Bool) {p : Char → Bool} (hp : p ')' = false) (n : Nat) :
    takeRun verbose p n [')', '$'] = ([], [')', '$']) := by
  cases n with
  | zero => rfl
  | succ n => simp [takeRun, hp]

/-- A run of characters that the anchor does not have ends before it. -/
theorem anchored_takeRun (verbose : Bool) {p : Char → Bool} (hp : p ')' = false) {n m : Nat}
    {cs cs' : List Char} (h : Anchored cs cs') (hn : cs.length ≤ n) (hm : cs'.length ≤ m) :
    ∃ rest', takeRun verbose p m cs' = ((takeRun verbose p n cs).1, rest') ∧
      Anchored (takeRun verbose p n cs).2 rest' := by
  induction n generalizing m cs cs' with
  | zero =>
    cases List.eq_nil_of_length_eq_zero (Nat.le_zero.mp hn)
    rcases h with rfl | ⟨-, rfl⟩
    · exact ⟨_, takeRun_closing verbose hp m, .inl rfl⟩
    · exact ⟨_, takeRun_nil verbose p m, .inr ⟨rfl, rfl⟩⟩
  | succ n ih =>
    cases cs with
    | nil =>
      rw [takeRun_nil]
      rcases h with rfl | ⟨-, rfl⟩
      · exact ⟨_, takeRun_closing verbose hp m, .inl rfl⟩
      · exact ⟨_, takeRun_nil verbose p m, .inr ⟨rfl, rfl⟩⟩
    | cons c cs =>
      cases eq_of_anchored_cons h
      cases m with
      | zero => simp at hm
      | succ m =>
        simp only [takeRun]
        split
        · have hle := length_skip_le verbose cs
          have hle' := length_skip_le verbose (cs ++ [')', '$'])
          simp only [List.length_cons] at hn hm
          obtain ⟨rest', hrun, hrest⟩ :=
            ih (m := m) (anchored_skip verbose (anchored_append cs)) (by omega) (by omega)
          exact ⟨rest', by rw [hrun], hrest⟩
        · exact ⟨_, rfl, anchored_append (c :: cs)⟩

/-- Braces that are open at the end do not close in the anchor. -/
theorem alike_takeBraced (verbose : Bool) {n n' : Nat} {cs cs' : List Char} (h : Anchored cs cs')
    (hn : cs.length < n) (hn' : n ≤ n') :
    Alike (takeBraced verbose n cs) (takeBraced verbose n' cs') := by
  induction n generalizing n' cs cs' with
  | zero => exact absurd hn (Nat.not_lt_zero _)
  | succ n ih =>
    obtain ⟨n', rfl⟩ : ∃ m, n' = m + 1 := ⟨n' - 1, by omega⟩
    cases cs with
    | nil => exact .of_nil (consumes_takeBraced verbose _) h
    | cons c cs =>
      cases eq_of_anchored_cons h
      have hle := length_skip_le verbose cs
      rw [List.length_cons] at hn
      simp only [takeBraced]
      split
      · exact .both (anchored_append cs)
      · exact (ih (anchored_skip verbose (anchored_append cs)) (by omega) (by omega)).map _

theorem alike_takeFixed (verbose : Bool) (n : Nat) {cs cs' : List Char} (h : Anchored cs cs') :
    Alike (takeFixed verbose n cs) (takeFixed verbose n cs') := by
  induction n generalizing cs cs' with
  | zero => exact .both h
  | succ n ih =>
    cases cs with
    | nil => exact .of_nil (consumes_takeFixed verbose (Nat.succ_pos n)) h
    | cons c cs =>
      cases eq_of_anchored_cons h
      exact (ih (anchored_skip verbose (anchored_append cs))).map _

theorem anchored_dropWhile {p : Char → Bool} (hp : p ')' = false) {cs cs' : List Char}
    (h : Anchored cs cs') : Anchored (cs.dropWhile p) (cs'.dropWhile p) := by
  induction cs generalizing cs' with
  | nil =>
    rcases h with rfl | ⟨-, rfl⟩
    · exact .inl (by simp [hp])
    · exact .inr ⟨rfl, rfl⟩
  | cons c cs ih =>
    cases eq_of_anchored_cons h
    simp only [List.dropWhile_cons]
    split
    · exact ih (anchored_append cs)
    · exact anchored_append (c :: cs)

theorem isBlank_closing : Unicode.isBlank ')' = false := by decide +kernel

theorem alike_decimal? (verbose : Bool) {cs cs' : List Char} (h : Anchored cs cs') :
    Alike (decimal? verbose cs) (decimal? verbose cs') := by
  unfold decimal?
  obtain ⟨rest', hrun, hrest⟩ := anchored_takeRun verbose (p := Char.isDigit) (by decide)
    (anchored_dropWhile isBlank_closing h) (Nat.le_refl _) (Nat.le_refl _)
  simp only [hrun]
  split
  · exact .neither
  · exact .both (anchored_dropWhile isBlank_closing hrest)

theorem takeWhile_append_of_ne_nil {p : Char → Bool} {cs : List Char} (h : cs.dropWhile p ≠ [])
    (ds : List Char) : (cs ++ ds).takeWhile p = cs.takeWhile p := by
  induction cs with
  | nil => exact absurd rfl h
  | cons c cs ih =>
    simp only [List.cons_append, List.takeWhile_cons, List.dropWhile_cons] at h ⊢
    split
    · next hc =>
      rw [if_pos hc] at h
      rw [ih h]
    · rfl

/-- A character that is not found before the anchor is not found in it. -/
theorem dropWhile_append_closing {c : Char} (hc : c ≠ ')') (hc' : c ≠ '$') (cs : List Char) :
    (cs ++ [')', '$']).dropWhile (· != c) =
      if cs.dropWhile (· != c) = [] then [] else cs.dropWhile (· != c) ++ [')', '$'] := by
  rw [List.dropWhile_append]
  simp [hc.symm, hc'.symm]

end Cursor

namespace Escape

open Cursor

theorem alike_digits? (verbose : Bool) {digits : Nat} (hdigits : 0 < digits) {cs cs' : List Char}
    (h : Anchored cs cs') : Alike (digits? verbose digits cs) (digits? verbose digits cs') := by
  cases cs with
  | nil => exact .of_nil (consumes_digits? verbose hdigits) h
  | cons c cs =>
    cases eq_of_anchored_cons h
    have hskip := anchored_skip verbose (anchored_append cs)
    have hle := length_skip_le verbose cs
    simp only [digits?]
    split
    · refine (alike_takeBraced verbose hskip (by omega) (by simp)).bind ?_ ?_
      · intro body rest rest' hrest
        cases scalar? body with
        | none => exact .neither
        | some char => exact .both (anchored_skip verbose hrest)
      · intro body rest l tail e
        obtain ⟨char, -, heq⟩ := Option.bind_eq_some_iff.mp e
        cases heq
        exact suffix_skip verbose rest
    · refine (alike_takeFixed verbose digits (anchored_append (c :: cs))).bind ?_ ?_
      · intro body rest rest' hrest
        cases scalar? body with
        | none => exact .neither
        | some char => exact .both hrest
      · intro body rest l tail e
        obtain ⟨char, -, heq⟩ := Option.bind_eq_some_iff.mp e
        cases heq
        exact List.suffix_refl _

theorem alike_propertyName? (verbose negated : Bool) {cs cs' : List Char} (h : Anchored cs cs') :
    Alike (propertyName? verbose negated cs) (propertyName? verbose negated cs') := by
  cases cs with
  | nil => exact .of_nil (consumes_propertyName? verbose negated) h
  | cons c cs =>
    cases eq_of_anchored_cons h
    have hskip := anchored_skip verbose (anchored_append cs)
    have hle := length_skip_le verbose cs
    simp only [propertyName?]
    split
    · refine (alike_takeBraced verbose hskip (by omega) (by simp)).bind ?_ ?_
      · intro name rest rest' hrest
        exact .both hrest
      · intro name rest p tail e
        cases e
        exact List.suffix_refl _
    · split
      · exact .neither
      · exact .both hskip

/-- Behind the first character the anchored text goes on like the bare one. -/
theorem alike_next {α : Type} (verbose : Bool) {read : List Char → Option (α × List Char)}
    (hread : Consumes read) (hnil : read [] = none)
    (halike : ∀ cs cs', Anchored cs cs' → Alike (read cs) (read cs')) {cs cs' : List Char}
    (h : Anchored cs cs') : Alike (read (next verbose cs)) (read (next verbose cs')) := by
  cases cs with
  | nil =>
    have hnext : Consumes fun cs => read (next verbose cs) :=
      fun cs _ _ e => (hread.suffix e).trans (suffix_next verbose cs)
    have hbare : read (next verbose []) = none := by
      cases verbose <;> exact hnil
    rw [hbare]
    exact .of_nil hnext h
  | cons c cs =>
    cases eq_of_anchored_cons h
    exact halike _ _ (anchored_skip verbose (anchored_append cs))

theorem alike_hex? (verbose : Bool) {digits : Nat} (hdigits : 0 < digits) {cs cs' : List Char}
    (h : Anchored cs cs') : Alike (hex? verbose digits cs) (hex? verbose digits cs') :=
  alike_next verbose (consumes_digits? verbose hdigits) rfl
    (fun _ _ h => alike_digits? verbose hdigits h) h

theorem alike_property? (verbose negated : Bool) {cs cs' : List Char} (h : Anchored cs cs') :
    Alike (property? verbose negated cs) (property? verbose negated cs') :=
  alike_next verbose (consumes_propertyName? verbose negated) rfl
    (fun _ _ h => alike_propertyName? verbose negated h) h

/-- An opening brace right before the closing anchor. -/
def StrayBrace (verbose : Bool) (cs : List Char) : Prop :=
  ∃ rest, cs = '\x7b' :: rest ∧ skip verbose rest = [')', '$']

/-- A brace at the end of the bare text cannot hold an edge; in front of the anchor it is left for a
repetition. -/
theorem alike_edge? (verbose : Bool) {cs cs' : List Char} (h : Anchored cs cs') :
    Alike (edge? verbose cs) (edge? verbose cs') ∨
      edge? verbose cs = none ∧ edge? verbose cs' = some (.boundary, cs') ∧
        StrayBrace verbose cs' := by
  by_cases hcs : ∃ tail, cs = '\x7b' :: tail
  · obtain ⟨tail, rfl⟩ := hcs
    cases eq_of_anchored_cons h
    have hskip := anchored_skip verbose (anchored_append tail)
    simp only [edge?, next, List.tail_cons]
    cases hrest : skip verbose tail with
    | nil =>
      rw [hrest] at hskip
      rcases hskip with hclosing | ⟨-, hnil⟩
      · have hname : ((')' : Char).isAlpha || decide (')' = '-')) = false := by decide
        refine .inr ⟨rfl, ?_, tail ++ [')', '$'], rfl, hclosing⟩
        rw [hclosing]
        simp
      · rw [hnil]
        exact .inl .neither
    | cons c rest =>
      rw [hrest] at hskip
      rw [eq_of_anchored_cons hskip]
      refine .inl ?_
      simp only
      split
      · obtain ⟨rest', hrun, hrest⟩ := anchored_takeRun verbose
          (p := fun c => c.isAlpha || c = '-') (n := rest.length + 1)
          (m := (rest ++ [')', '$']).length + 1) (by decide) (anchored_append (c :: rest))
          (by simp) (by simp)
        simp only [List.cons_append] at hrun
        rw [hrun]
        generalize takeRun verbose _ _ (c :: rest) = run at hrest ⊢
        obtain ⟨name, after⟩ := run
        by_cases hafter : ∃ tail, after = '\x7d' :: tail
        · obtain ⟨tail, rfl⟩ := hafter
          cases eq_of_anchored_cons hrest
          show Alike ((edgeNamed? name).map fun edge => (edge, tail))
            ((edgeNamed? name).map fun edge => (edge, tail ++ [')', '$']))
          cases edgeNamed? name with
          | none => exact .neither
          | some edge => exact .both (anchored_append tail)
        · rw [not_exists] at hafter
          have hafter' := ne_cons_of_anchored (by decide) hrest hafter
          split
          · next e => exact absurd (Prod.mk.inj e).2 (hafter _)
          · split
            · next e => exact absurd (Prod.mk.inj e).2 (hafter' _)
            · exact .neither
      · exact .both h
  · rw [not_exists] at hcs
    have hcs' := ne_cons_of_anchored (by decide) h hcs
    have hleft (cs : List Char) (hcs : ∀ rest, cs ≠ '\x7b' :: rest) :
        edge? verbose cs = some (.boundary, cs) := by
      unfold edge?
      split
      · exact absurd rfl (hcs _)
      · rfl
    rw [hleft cs hcs, hleft cs' hcs']
    exact .inl (.both h)

/-- How reading behind a backslash compares: a brace at the end of the bare text makes a word edge
malformed, which in front of the anchor is one. -/
def AlikeEscape (verbose : Bool) (bare anchored : Option (Primitive × List Char)) : Prop :=
  Alike bare anchored ∨
    bare = none ∧ ∃ rest', anchored = some (.assertion (.word .boundary), rest') ∧
      StrayBrace verbose rest'

theorem alikeEscape_edge? (verbose : Bool) {cs cs' : List Char} (h : Anchored cs cs') :
    AlikeEscape verbose
      ((edge? verbose cs).map fun (edge, rest) => (.assertion (.word edge), rest))
      ((edge? verbose cs').map fun (edge, rest) => (.assertion (.word edge), rest)) := by
  rcases alike_edge? verbose h with hedge | ⟨hbare, hedge, hbrace⟩
  · exact .inl (hedge.map fun edge => Primitive.assertion (.word edge))
  · rw [hbare, hedge]
    exact .inr ⟨rfl, _, rfl, hbrace⟩

/-- What a backslash and one character stand for does not depend on what follows. -/
theorem alikeEscape_read? (verbose : Bool) {cs cs' : List Char} (h : Anchored cs cs') :
    AlikeEscape verbose (read? verbose cs) (read? verbose cs') := by
  cases cs with
  | nil => exact .inl (.of_nil (consumes_read? verbose) h)
  | cons c cs =>
    cases eq_of_anchored_cons h
    have hrest := anchored_append cs
    unfold read?
    simp only
    split
    · exact .inl .neither
    · split
      · exact .inl ((alike_hex? verbose (by decide) h).map _)
      · split
        · exact .inl ((alike_hex? verbose (by decide) h).map _)
        · split
          · exact .inl ((alike_hex? verbose (by decide) h).map _)
          · split
            · exact .inl (alike_property? verbose false h)
            · split
              · exact .inl (alike_property? verbose true h)
              · split
                · exact .inl (.both hrest)
                · split <;> first
                    | exact .inl (.both hrest)
                    | exact .inl .neither
                    | exact alikeEscape_edge? verbose hrest

end Escape

end InvertedIndex.Pattern
