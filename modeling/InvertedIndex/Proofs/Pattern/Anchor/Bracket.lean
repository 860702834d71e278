import InvertedIndex.Proofs.Pattern.Anchor.Cursor

namespace InvertedIndex.Pattern

namespace Bracket

open Cursor

theorem negation_of_ne (verbose : Bool) {cs : List Char} (h : ∀ rest, cs ≠ '^' :: rest) :
    negation verbose cs = (false, cs) := by
  unfold negation
  split
  · exact absurd rfl (h _)
  · rfl

theorem anchored_negation (verbose : Bool) {cs cs' : List Char} (h : Anchored cs cs') :
    ∃ rest', negation verbose cs' = ((negation verbose cs).1, rest') ∧
      Anchored (negation verbose cs).2 rest' := by
  by_cases hcs : ∃ rest, cs = '^' :: rest
  · obtain ⟨rest, rfl⟩ := hcs
    cases eq_of_anchored_cons h
    exact ⟨_, rfl, anchored_skip verbose (anchored_append rest)⟩
  · rw [not_exists] at hcs
    rw [negation_of_ne verbose hcs, negation_of_ne verbose (ne_cons_of_anchored (by decide) h hcs)]
    exact ⟨cs', rfl, h⟩

theorem afterHyphens_of_ne (negated : Bool) {hyphens cs : List Char}
    (h : hyphens = [] → ∀ rest, cs ≠ ']' :: rest) :
    afterHyphens negated hyphens cs = (⟨negated, none, hyphens.map char⟩, cs) := by
  unfold afterHyphens
  split
  · exact absurd rfl (h rfl _)
  · rfl

theorem anchored_afterHyphens (negated : Bool) (hyphens : List Char) {cs cs' : List Char}
    (h : Anchored cs cs') :
    ∃ rest', afterHyphens negated hyphens cs' = ((afterHyphens negated hyphens cs).1, rest') ∧
      Anchored (afterHyphens negated hyphens cs).2 rest' := by
  by_cases hcs : hyphens = [] ∧ ∃ rest, cs = ']' :: rest
  · obtain ⟨rfl, rest, rfl⟩ := hcs
    cases eq_of_anchored_cons h
    exact ⟨_, rfl, anchored_append rest⟩
  · have hne : hyphens = [] → ∀ rest, cs ≠ ']' :: rest := fun hn rest e => hcs ⟨hn, rest, e⟩
    rw [afterHyphens_of_ne negated hne,
      afterHyphens_of_ne negated fun hn => ne_cons_of_anchored (by decide) h (hne hn)]
    exact ⟨cs', rfl, h⟩

/-- A bracket is opened in the same way, whatever stands behind its text. -/
theorem anchored_openAt (verbose : Bool) {cs cs' : List Char} (h : Anchored cs cs') :
    ∃ rest', openAt verbose cs' = ((openAt verbose cs).1, rest') ∧
      Anchored (openAt verbose cs).2 rest' := by
  obtain ⟨body', hneg, hbody⟩ := anchored_negation verbose (anchored_skip verbose h)
  obtain ⟨rest', hrun, hrest⟩ := anchored_takeRun verbose (p := (· = '-')) (by decide) hbody
    (Nat.le_refl _) (Nat.le_refl _)
  rw [openAt_eq, openAt_eq, hneg]
  simp only
  rw [hrun]
  exact anchored_afterHyphens _ _ hrest

theorem asciiName?_eq_none {negated : Bool} {cs : List Char}
    (h : ∀ rest, cs.dropWhile (· != ':') ≠ ':' :: ']' :: rest) : asciiName? negated cs = none := by
  unfold asciiName?
  split
  · next e => exact absurd e (h _)
  · rfl

/-- The closing anchor has no colon, so it takes part in no name. -/
theorem asciiName?_append_closing (negated : Bool) (cs : List Char) :
    asciiName? negated (cs ++ [')', '$']) =
      (asciiName? negated cs).map fun (item, rest) => (item, rest ++ [')', '$']) := by
  have hdrop := dropWhile_append_closing (c := ':') (by decide) (by decide) cs
  by_cases hcs : ∃ rest, cs.dropWhile (· != ':') = ':' :: ']' :: rest
  · obtain ⟨rest, e⟩ := hcs
    have hne : cs.dropWhile (· != ':') ≠ [] := by simp [e]
    have htake := takeWhile_append_of_ne_nil hne [')', '$']
    unfold asciiName?
    rw [htake, hdrop, e]
    simp [Function.comp_def]
  · rw [not_exists] at hcs
    rw [asciiName?_eq_none hcs, asciiName?_eq_none]
    · rfl
    · intro rest e
      rw [hdrop] at e
      split at e
      · cases e
      · match hds : cs.dropWhile (· != ':') with
        | [] => contradiction
        | c :: ds =>
          rw [hds, List.cons_append, List.cons.injEq] at e
          obtain ⟨rfl, e⟩ := e
          exact ne_cons_of_anchored (by decide) (anchored_append ds)
            (fun rest e => hcs rest (by rw [hds, e])) rest e

/-- Classes by name are told from brackets alike. -/
theorem ascii?_append_closing (cs : List Char) :
    ascii? ('[' :: (cs ++ [')', '$'])) =
      (ascii? ('[' :: cs)).map fun (item, rest) => (item, rest ++ [')', '$']) := by
  by_cases hcs : ∃ body, cs = ':' :: body
  · obtain ⟨body, rfl⟩ := hcs
    rw [List.cons_append, ascii?_cons, ascii?_cons]
    by_cases hbody : ∃ rest, body = '^' :: rest
    · obtain ⟨rest, rfl⟩ := hbody
      exact asciiName?_append_closing true rest
    · rw [not_exists] at hbody
      have hbody' := ne_cons_of_anchored (by decide) (anchored_append body) hbody
      split
      · next e => exact absurd e (hbody' _)
      · exact asciiName?_append_closing false body
  · rw [not_exists] at hcs
    rw [ascii?_eq_none, ascii?_eq_none]
    · rfl
    · intro rest e
      exact hcs rest (List.cons.inj e).2
    · intro rest e
      exact ne_cons_of_anchored (by decide) (anchored_append cs) hcs rest (List.cons.inj e).2

/-- A part of a pattern is read in the same way with the anchor behind it. -/
theorem alikeEscape_primitive? (verbose : Bool) {cs cs' : List Char} (h : Anchored cs cs') :
    Escape.AlikeEscape verbose (primitive? verbose cs) (primitive? verbose cs') := by
  cases cs with
  | nil => exact .inl (.of_nil (consumes_primitive? verbose) h)
  | cons c cs =>
    cases eq_of_anchored_cons h
    have hcs := anchored_append cs
    by_cases hc : c = '\\'
    · subst hc
      exact Escape.alikeEscape_read? verbose hcs
    · have hread (cs : List Char) : primitive? verbose (c :: cs) = some (.literal ⟨c, false⟩, cs) := by
        unfold primitive?
        split <;> simp_all
      rw [hread, hread]
      exact .inl (.both hcs)

/-- What is left of a text behind blanks and one `#`. -/
def strip (cs : List Char) : List Char :=
  match cs.dropWhile Unicode.isBlank with
  | '#' :: rest => rest.dropWhile Unicode.isBlank
  | rest => rest

theorem anchored_strip {cs cs' : List Char} (h : Anchored cs cs') :
    Anchored (strip cs) (strip cs') := by
  have hdrop := anchored_dropWhile isBlank_closing h
  unfold strip
  by_cases hcs : ∃ rest, cs.dropWhile Unicode.isBlank = '#' :: rest
  · obtain ⟨rest, e⟩ := hcs
    rw [e] at hdrop ⊢
    rw [eq_of_anchored_cons hdrop]
    exact anchored_dropWhile isBlank_closing (anchored_append rest)
  · rw [not_exists] at hcs
    have hcs' := ne_cons_of_anchored (by decide) hdrop hcs
    split
    · next e => exact absurd e (hcs _)
    · exact hdrop

theorem head?_anchored {c : Char} (hc : c ≠ ')') {cs cs' : List Char} (h : Anchored cs cs') :
    cs'.head? = some c ↔ cs.head? = some c := by
  cases cs with
  | nil => rcases h with rfl | ⟨-, rfl⟩ <;> simp [hc.symm]
  | cons d cs =>
    cases eq_of_anchored_cons h
    rfl

theorem glance_iff {c : Char} (hb : Unicode.isBlank c = false) (hc : c ≠ '#') (cs : List Char) :
    glance true cs = some c ↔ (strip cs).head? = some c := by
  have hglance : glance true cs = (strip cs).head?.or cs.head? := rfl
  rw [hglance]
  cases e : strip cs with
  | cons d rest => simp
  | nil =>
    refine ⟨fun h => ?_, fun h => by cases h⟩
    obtain ⟨rest, rfl⟩ := List.head?_eq_some_iff.mp h
    simp [strip, hb, hc] at e

/-- The anchor is not what a bracket looks ahead for. -/
theorem glance_anchored {c : Char} (hb : Unicode.isBlank c = false) (hc : c ≠ '#') (hc' : c ≠ ')')
    (verbose : Bool) {cs cs' : List Char} (h : Anchored cs cs') :
    glance verbose cs' = some c ↔ glance verbose cs = some c := by
  cases verbose with
  | false => exact head?_anchored hc' h
  | true =>
    rw [glance_iff hb hc, glance_iff hb hc]
    exact head?_anchored hc' (anchored_strip h)

/-- Whether a hyphen stands for itself because of what follows it. -/
def endsRange (verbose : Bool) (cs : List Char) : Prop :=
  glance verbose cs = some ']' ∨ glance verbose cs = some '-'

theorem endsRange_anchored (verbose : Bool) {cs cs' : List Char} (h : Anchored cs cs') :
    endsRange verbose cs' ↔ endsRange verbose cs :=
  or_congr (glance_anchored (by decide +kernel) (by decide) (by decide) verbose h)
    (glance_anchored (by decide +kernel) (by decide) (by decide) verbose h)

theorem alike_rangeTo? (first second : Primitive) {cs cs' : List Char} (h : Anchored cs cs') :
    Alike (rangeTo? first second cs) (rangeTo? first second cs') := by
  show Alike
    (first.toLiteral?.bind fun lo => second.toLiteral?.bind fun hi =>
      if lo.char ≤ hi.char then some (ClassExpr.range lo hi, cs) else none)
    (first.toLiteral?.bind fun lo => second.toLiteral?.bind fun hi =>
      if lo.char ≤ hi.char then some (ClassExpr.range lo hi, cs') else none)
  cases first.toLiteral? with
  | none => exact .neither
  | some lo =>
    cases second.toLiteral? with
    | none => exact .neither
    | some hi =>
      simp only [Option.bind_some]
      split
      · exact .both h
      · exact .neither

/-- Assertions are no ends of ranges. -/
theorem rangeTo?_assertion (first : Primitive) (kind : Assertion) (cs : List Char) :
    rangeTo? first (.assertion kind) cs = none := by
  cases first <;> rfl

theorem alike_rangeEnd? (verbose : Bool) (first : Primitive) {cs cs' : List Char}
    (h : Anchored cs cs') : Alike (rangeEnd? verbose first cs) (rangeEnd? verbose first cs') := by
  rw [rangeEnd?_eq, rangeEnd?_eq]
  rcases alikeEscape_primitive? verbose (anchored_skip verbose h) with hread | ⟨hbare, rest', hread, -⟩
  · refine hread.bind ?_ ?_
    · intro second rest rest' hrest
      exact alike_rangeTo? first second hrest
    · intro second rest item tail e
      exact suffix_rangeTo? e
  · rw [hbare, hread, Option.bind_none, Option.bind_some, rangeTo?_assertion]
    exact .neither

theorem alike_toClassExpr? (first : Primitive) {cs cs' : List Char} (h : Anchored cs cs') :
    Alike (first.toClassExpr?.map (·, cs)) (first.toClassExpr?.map (·, cs')) := by
  cases first.toClassExpr? with
  | none => exact .neither
  | some item => exact .both h

theorem alike_itemAfter? (verbose : Bool) (first : Primitive) {cs cs' : List Char}
    (h : Anchored cs cs') : Alike (itemAfter? verbose first cs) (itemAfter? verbose first cs') := by
  by_cases hcs : ∃ rest, cs = '-' :: rest
  · obtain ⟨rest, rfl⟩ := hcs
    cases eq_of_anchored_cons h
    have hrest := anchored_append rest
    have hends := endsRange_anchored verbose hrest
    unfold endsRange at hends
    simp only [itemAfter?, hends]
    split
    · exact alike_toClassExpr? first h
    · exact alike_rangeEnd? verbose first hrest
  · rw [not_exists] at hcs
    have hcs' := ne_cons_of_anchored (by decide) h hcs
    unfold itemAfter?
    split
    · next e => exact absurd rfl (hcs _)
    · exact alike_toClassExpr? first h

/-- Assertions are no items. -/
theorem itemAfter?_assertion (verbose : Bool) (kind : Assertion) (cs : List Char) :
    itemAfter? verbose (.assertion kind) cs = none := by
  have hrange (cs : List Char) : rangeEnd? verbose (.assertion kind) cs = none := by
    rw [rangeEnd?_eq]
    cases primitive? verbose (skip verbose cs) <;> rfl
  unfold itemAfter?
  split
  · split
    · rfl
    · exact hrange _
  · rfl

theorem alike_item? (verbose : Bool) {cs cs' : List Char} (h : Anchored cs cs') :
    Alike (item? verbose cs) (item? verbose cs') := by
  rw [item?_eq, item?_eq]
  rcases alikeEscape_primitive? verbose h with hread | ⟨hbare, rest', hread, -⟩
  · refine hread.bind ?_ ?_
    · intro first rest rest' hrest
      exact alike_itemAfter? verbose first (anchored_skip verbose hrest)
    · intro first rest item tail e
      exact (suffix_itemAfter? e).trans (suffix_skip verbose rest)
  · rw [hbare, hread, Option.bind_none, Option.bind_some, itemAfter?_assertion]
    exact .neither

/-- What follows is neither the end of a bracket, nor another one, nor an operator. -/
structure StartsItem (cs : List Char) : Prop where
  ne_nil : cs ≠ []
  ne_inter (rest : List Char) : cs ≠ '&' :: '&' :: rest
  ne_diff (rest : List Char) : cs ≠ '-' :: '-' :: rest
  ne_symmDiff (rest : List Char) : cs ≠ '~' :: '~' :: rest
  ne_close (rest : List Char) : cs ≠ ']' :: rest
  ne_open (rest : List Char) : cs ≠ '[' :: rest

theorem startsItem_anchored {cs cs' : List Char} (hcs : StartsItem cs) (h : Anchored cs cs') :
    StartsItem cs' := by
  refine {
    ne_nil := ?_
    ne_inter := ne_cons_cons_of_anchored (by decide) (by decide) h hcs.ne_inter
    ne_diff := ne_cons_cons_of_anchored (by decide) (by decide) h hcs.ne_diff
    ne_symmDiff := ne_cons_cons_of_anchored (by decide) (by decide) h hcs.ne_symmDiff
    ne_close := ne_cons_of_anchored (by decide) h hcs.ne_close
    ne_open := ne_cons_of_anchored (by decide) h hcs.ne_open }
  cases cs with
  | nil => exact absurd rfl hcs.ne_nil
  | cons c tail => simp [eq_of_anchored_cons h]

theorem readFrom_of_startsItem {verbose : Bool} (n : Nat) (outer : List Open) (b : Open)
    {cs : List Char} (h : StartsItem (skip verbose cs)) :
    readFrom verbose (n + 1) outer b cs =
      match item? verbose (skip verbose cs) with
      | some (item, rest) => readFrom verbose n outer (b.push item) rest
      | none => none := by
  rw [readFrom]
  split
  · next e => exact absurd e h.ne_nil
  · next e => exact absurd e (h.ne_inter _)
  · next e => exact absurd e (h.ne_diff _)
  · next e => exact absurd e (h.ne_symmDiff _)
  · next e => exact absurd e (h.ne_close _)
  · next e => exact absurd e (h.ne_open _)
  · rfl

/-- Where the bare text ends in a bracket, what is left of the anchored one is read into it. -/
theorem spent_of_readFrom {verbose : Bool} {n : Nat} {outer : List Open} {b : Open}
    {cs rest : List Char} {e : Expr} (hskip : Anchored [] (skip verbose cs))
    (h : readFrom verbose n outer b cs = some (e, rest)) : Spent rest := by
  cases n with
  | zero => cases h
  | succ n =>
    rcases hskip with hclosing | ⟨-, hnil⟩
    · have hstarts : StartsItem (skip verbose cs) := by
        rw [hclosing]
        constructor <;> simp
      rw [readFrom_of_startsItem n outer b hstarts, hclosing] at h
      split at h
      · next hitem => exact (suffix_readFrom h).trans (consumes_item? verbose _ _ _ hitem)
      · cases h
    · rw [readFrom, hnil] at h
      cases h

/-- An open bracket does not close in the anchor, so it is read in the same way or not at all. -/
theorem alike_readFrom (verbose : Bool) {n n' : Nat} (outer : List Open) (b : Open)
    {cs cs' : List Char} (h : Anchored cs cs') (hn : cs.length < n) (hn' : n ≤ n') :
    Alike (readFrom verbose n outer b cs) (readFrom verbose n' outer b cs') := by
  induction n generalizing n' outer b cs cs' with
  | zero => exact absurd hn (Nat.not_lt_zero _)
  | succ n ih =>
    obtain ⟨m, rfl⟩ : ∃ m, n' = m + 1 := ⟨n' - 1, by omega⟩
    have hm : n ≤ m := by omega
    have hskip := anchored_skip verbose h
    have hle := length_skip_le verbose cs
    by_cases hitem : StartsItem (skip verbose cs)
    · have hread := alike_item? verbose hskip
      rw [readFrom_of_startsItem n outer b hitem,
        readFrom_of_startsItem m outer b (startsItem_anchored hitem hskip)]
      cases e : item? verbose (skip verbose cs) with
      | none =>
        rw [e] at hread
        cases e' : item? verbose (skip verbose cs') with
        | none => exact .neither
        | some found =>
          rw [e'] at hread
          exact .of_spent fun x rest' hx => (suffix_readFrom hx).trans hread.spent_of_none
      | some found =>
        rw [e] at hread
        obtain ⟨rest', e', hrest⟩ := hread.eq_some
        have hshort := (consumes_item? verbose _ _ _ e).length_le
        have hpos := List.length_pos_iff.mpr hitem.ne_nil
        rw [List.length_tail] at hshort
        rw [e']
        exact ih _ _ hrest (by omega) hm
    · -- What follows the first character is short enough for the fuel that is left.
      have hshort : ∀ {c rest}, skip verbose cs = c :: rest → rest.length < n := by
        intro c rest e
        rw [e, List.length_cons] at hle
        omega
      by_cases hnil : skip verbose cs = []
      · have hbare : readFrom verbose (n + 1) outer b cs = none := by rw [readFrom, hnil]
        rw [hnil] at hskip
        rw [hbare]
        exact .of_spent fun x rest' hx => spent_of_readFrom hskip hx
      · unfold readFrom
        split
        · next e => exact absurd e hnil
        · next e =>
          rw [skip_eq_cons_of_anchored h e]
          exact ih _ _ (anchored_append _) (Nat.lt_of_succ_lt (hshort e)) hm
        · next e =>
          rw [skip_eq_cons_of_anchored h e]
          exact ih _ _ (anchored_append _) (Nat.lt_of_succ_lt (hshort e)) hm
        · next e =>
          rw [skip_eq_cons_of_anchored h e]
          exact ih _ _ (anchored_append _) (Nat.lt_of_succ_lt (hshort e)) hm
        · next e =>
          rw [skip_eq_cons_of_anchored h e]
          simp only
          cases outer with
          | nil => exact .both (anchored_append _)
          | cons o outer => exact ih _ _ (anchored_append _) (hshort e) hm
        · next rest e =>
          rw [skip_eq_cons_of_anchored h e]
          simp only [ascii?_append_closing]
          cases hascii : ascii? ('[' :: rest) with
          | some found =>
            have hfound := (consumes_ascii? _ _ _ hascii).length_le
            exact ih _ _ (anchored_append _) (Nat.lt_of_le_of_lt hfound (hshort e)) hm
          | none =>
            obtain ⟨rest', hopen, hrest⟩ := anchored_openAt verbose (anchored_append rest)
            have hinner := (suffix_openAt verbose rest).length_le
            simp only [Option.map_none, hopen]
            exact ih _ _ hrest (Nat.lt_of_le_of_lt hinner (hshort e)) hm
        · next x _ hinter hdiff hsymm hclose hopen =>
          exact absurd ⟨hnil, hinter, hdiff, hsymm, hclose, hopen⟩ hitem

theorem alike_read? (verbose : Bool) {cs cs' : List Char} (h : Anchored cs cs') :
    Alike (read? verbose cs) (read? verbose cs') := by
  have hlen := length_le_of_anchored h
  have hshort := (suffix_openAt verbose cs).length_le
  obtain ⟨rest', hopen, hrest⟩ := anchored_openAt verbose h
  unfold read?
  rw [hopen]
  exact alike_readFrom verbose [] _ hrest (Nat.lt_succ_of_le hshort) (by omega)

end Bracket

end InvertedIndex.Pattern
