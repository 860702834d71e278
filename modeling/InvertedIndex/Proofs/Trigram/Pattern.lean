import InvertedIndex.Proofs.Pattern.Quote
import InvertedIndex.Proofs.Results
import InvertedIndex.Proofs.Trigram.Analysis

namespace InvertedIndex.Trigram

open Pattern (bareTree compile)

theorem ofPattern_eq_ok {text : List Char} {q : Query} (h : Query.ofPattern text = .ok q) :
    ∃ t, bareTree text = .ok t ∧ q = (analyze t).toQuery := by
  obtain ⟨t, ht, rfl⟩ := Results.map_eq_ok h
  exact ⟨t, ht, rfl⟩

/-- No value that the tree of a pattern spans fails its query. -/
theorem holds_ofPattern_of_spans {text : List Char} {q : Query} {t : Pattern.Tree} {value : Bytes}
    (hq : Query.ofPattern text = .ok q) (ht : bareTree text = .ok t)
    (h : t.Spans (.ofText value) 0 value.length) : q.holds (windows value) = true := by
  obtain ⟨t', ht', rfl⟩ := ofPattern_eq_ok hq
  obtain rfl : t = t' := Except.ok.inj (ht.symm.trans ht')
  have hwhole : (Pattern.Subject.ofText value).slice 0 value.length = value := by
    simp [Pattern.Subject.slice, Pattern.Subject.rest_eq]
  exact holds_analyze ⟨_, _, _, h, hwhole⟩ (List.infix_refl value)

/-- No value that a compiled pattern matches fails its query. -/
theorem holds_ofPattern_of_isMatch {text : List Char} {q : Query} {p : Pattern} {value : Bytes}
    (hq : Query.ofPattern text = .ok q) (hp : compile text = .ok p)
    (h : p.isMatch value = true) : q.holds (windows value) = true := by
  obtain ⟨t, ht, -⟩ := ofPattern_eq_ok hq
  exact holds_ofPattern_of_spans hq ht (Pattern.spans_of_isMatch_of_compile hp ht h)

theorem ofPattern_quote (cs : List Char) :
    Query.ofPattern (Pattern.Escape.quote cs) = .ok (analyze (Pattern.plainTree cs)).toQuery := by
  rw [Query.ofPattern, Pattern.bareTree_quote]
  rfl

/-- Reduction loses no match: what is known of a tree takes in all its matches, listed strings are
at most 64, and the query of a pattern holds of every value that the pattern matches as a whole,
be it by its bare text or between anchors. -/
theorem reduction_keeps_matches :
    (∀ t : Pattern.Tree,
      (∀ strings, analyze t = .exact strings →
        strings.length ≤ 64 ∧ ∀ x, t.Matches x → x ∈ strings) ∧
      (∀ q, analyze t = .inexact q →
        ∀ x value, t.Matches x → x <:+: value → q.holds (windows value) = true)) ∧
    (∀ text q t value, Query.ofPattern text = .ok q → bareTree text = .ok t →
      t.Spans (.ofText value) 0 value.length → q.holds (windows value) = true) ∧
    (∀ text q t value, Query.ofPattern text = .ok q → bareTree text = .ok t →
      t.isWholeMatch value = true → q.holds (windows value) = true) ∧
    (∀ text q p value, Query.ofPattern text = .ok q → compile text = .ok p →
      p.isMatch value = true → q.holds (windows value) = true) := by
  refine ⟨fun t => ⟨fun strings hexact => ⟨?_, ?_⟩, fun q hinexact x value hx hvalue => ?_⟩, ?_, ?_, ?_⟩
  · have hbound := bounded_analyze t
    rw [hexact] at hbound
    exact hbound
  · rintro x ⟨s, i, j, hspan, rfl⟩
    have hcover := covers_analyze s t hspan
    rw [hexact] at hcover
    exact hcover
  · have hholds := holds_analyze hx hvalue
    rw [hinexact] at hholds
    exact hholds
  · intro text q t value hq ht h
    exact holds_ofPattern_of_spans hq ht h
  · intro text q t value hq ht h
    exact holds_ofPattern_of_spans hq ht (Pattern.Tree.spans_of_isWholeMatch h)
  · intro text q p value hq hp h
    exact holds_ofPattern_of_isMatch hq hp h

theorem reduction_keeps_matches_abcd :
    ∃ value : Bytes, value = [97, 98, 99, 100] ∧
      (∃ t, bareTree ['(', 'a', 'b', 'c', ')', 'd'] = .ok t ∧ analyze t = .exact [value] ∧
        t.isWholeMatch value = true ∧ value ∈ [value]) ∧
      (∃ q p, Query.ofPattern ['(', 'a', 'b', 'c', ')', 'd'] = .ok q ∧
        q = .and [.trigram ⟨97, 98, 99⟩, .trigram ⟨98, 99, 100⟩] ∧
        compile ['(', 'a', 'b', 'c', ')', 'd'] = .ok p ∧ p.isMatch value = true ∧
        q.holds (windows value) = true) ∧
      (∃ q, analyze (.repetition 1 none true (.literal [97, 98, 99])) = .inexact q ∧
        q = .trigram ⟨97, 98, 99⟩ ∧ q.holds (windows value) = true) := by
  obtain ⟨hnodes, -, -, hanchored⟩ := reduction_keeps_matches
  obtain ⟨t, ht, hwhole, hexact⟩ : ∃ t, bareTree ['(', 'a', 'b', 'c', ')', 'd'] = .ok t ∧
      t.isWholeMatch [97, 98, 99, 100] = true ∧ analyze t = .exact [[97, 98, 99, 100]] :=
    ⟨_, rfl, by decide +kernel, rfl⟩
  have hspans := Pattern.Tree.spans_of_isWholeMatch hwhole
  refine ⟨_, rfl, ⟨t, ht, hexact, hwhole, ?_⟩, ?_, ?_⟩
  · exact ((hnodes t).1 _ hexact).2 _ ⟨_, _, _, hspans, rfl⟩
  · obtain ⟨p, hp, hmatch⟩ : ∃ p, compile ['(', 'a', 'b', 'c', ')', 'd'] = .ok p ∧
        p.isMatch [97, 98, 99, 100] = true := ⟨_, rfl, by decide +kernel⟩
    obtain ⟨q, hq, hand⟩ : ∃ q, Query.ofPattern ['(', 'a', 'b', 'c', ')', 'd'] = .ok q ∧
        q = .and [.trigram ⟨97, 98, 99⟩, .trigram ⟨98, 99, 100⟩] := ⟨_, rfl, by decide +kernel⟩
    exact ⟨q, p, hq, hand, hp, hmatch, hanchored _ _ _ _ hq hp hmatch⟩
  · have hmatches : Pattern.Tree.Matches (.repetition 1 none true (.literal [97, 98, 99]))
        [97, 98, 99] :=
      ⟨.ofText [97, 98, 99], 0, 3, ⟨1, by simp, by simp, 3, ⟨List.prefix_refl _, rfl⟩, rfl⟩, rfl⟩
    exact ⟨_, rfl, by decide +kernel,
      (hnodes _).2 _ rfl _ [97, 98, 99, 100] hmatches ⟨[], [100], rfl⟩⟩

end InvertedIndex.Trigram
