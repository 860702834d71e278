import InvertedIndex.Proofs.Trigram.Pattern

namespace InvertedIndex.Pattern

open Trigram (analyze Query)

/-- The query of a pattern is made from the bare text. -/
theorem ofPattern_of_bareTree {text : List Char} {t : Tree} (h : bareTree text = .ok t) :
    Query.ofPattern text = .ok (analyze t).toQuery := by
  rw [Query.ofPattern, h]
  rfl

theorem ofPattern_of_bareTree_error {text : List Char} {e : Error} (h : bareTree text = .error e) :
    Query.ofPattern text = .error e := by
  rw [Query.ofPattern, h]
  rfl

/-- A compiled text that closes only what it opens is a pattern of its own, also for the trigrams, and
just the values that it takes up from end to end are matched. A compiled text that closes more than it
opens is refused on its own. -/
theorem compiled_matches_whole_values {text : List Char} {p : Pattern} (hp : compile text = .ok p) :
    (hasStray text = false →
      ∃ t q, bareTree text = .ok t ∧ Query.ofPattern text = .ok q ∧
        ∀ value, p.isMatch value = true ↔ t.Spans (.ofText value) 0 value.length) ∧
    (hasStray text = true →
      bareTree text = .error (.invalidPattern "malformed pattern") ∧
      Query.ofPattern text = .error (.invalidPattern "malformed pattern")) := by
  constructor
  · intro hstray
    obtain ⟨-, hanchored⟩ := compile_eq_ok hp
    obtain ⟨t, ht, -⟩ := bareTree_of_anchor hstray hanchored
    exact ⟨t, _, ht, ofPattern_of_bareTree ht, fun value => isMatch_iff_of_compile hp ht⟩
  · intro hstray
    have hrefused := bareTree_of_hasStray hstray
    exact ⟨hrefused, ofPattern_of_bareTree_error hrefused⟩

/-- The anchors hold of both alternatives. -/
theorem compiled_matches_whole_values_choice :
    ∃ p, compile ['(', 'a', ')', '|', 'b', 'c'] = .ok p ∧
      hasStray ['(', 'a', ')', '|', 'b', 'c'] = false ∧
      p.isMatch [98, 99] = true ∧ p.isMatch [97, 120] = false := by
  obtain ⟨p, hp⟩ : ∃ p, compile ['(', 'a', ')', '|', 'b', 'c'] = .ok p := ⟨_, rfl⟩
  have hstray : hasStray ['(', 'a', ')', '|', 'b', 'c'] = false := by decide +kernel
  have hbare : bareTree ['(', 'a', ')', '|', 'b', 'c'] =
      .ok (.alternation [.capture 1 none (.literal [97]), .literal [98, 99]]) := rfl
  obtain ⟨t, -, ht, -, hwhole⟩ := (compiled_matches_whole_values hp).1 hstray
  obtain rfl := Except.ok.inj (hbare.symm.trans ht)
  refine ⟨p, hp, hstray, ?_, ?_⟩
  · exact (hwhole [98, 99]).mpr (.inr (.inl ⟨List.prefix_refl _, rfl⟩))
  · rw [Bool.eq_false_iff]
    intro h
    rcases (hwhole [97, 120]).mp h with ⟨-, hlen⟩ | ⟨hstart, -⟩ | hnone
    · cases hlen
    · exact absurd hstart (by decide +kernel)
    · exact hnone

/-- The opening anchor holds of `a` alone and the closing one of `c` alone, so that `b` is found
anywhere, although the text is no pattern. -/
theorem compiled_matches_part_of_value :
    ∃ text p, text = ['a', ')', '|', 'b', '|', '(', 'c'] ∧ compile text = .ok p ∧
      hasStray text = true ∧ (∀ t, bareTree text ≠ .ok t) ∧ (∀ q, Query.ofPattern text ≠ .ok q) ∧
      p.isMatch [120, 98, 120] = true := by
  refine ⟨_, ⟨_, .alternation [.concat [.look .textStart, .literal [97]], .literal [98],
    .concat [.capture 1 none (.literal [99]), .look .textEnd]]⟩, rfl, rfl, by decide +kernel,
    ?_, ?_, ?_⟩
  · intro t ht
    cases ht
  · intro q hq
    cases hq
  · rw [isMatch, Tree.isMatch_iff]
    exact ⟨1, by decide, 2, .inr (.inl ⟨⟨[120], rfl⟩, rfl⟩)⟩

end InvertedIndex.Pattern
