import InvertedIndex.Proofs.Trigram.Normal
import InvertedIndex.Proofs.Trigram.Pattern

namespace InvertedIndex.Trigram

namespace Query

/-- The condition that asks for some trigrams: nothing at all, one trigram, or several. -/
def allOf : List Trigram → Query
  | [] => all
  | [t] => trigram t
  | ts => and (ts.map trigram)

theorem simplifyAll_trigrams (ts : List Trigram) :
    simplifyAll (ts.map trigram) = ts.map trigram := by
  apply simplifyAll_eq_self
  rw [List.forall_mem_map]
  exact fun _ _ => rfl

theorem conjuncts_trigrams (ts : List Trigram) :
    (ts.map trigram).flatMap conjuncts = ts.map trigram := by
  apply flatMap_eq_self
  rw [List.forall_mem_map]
  exact fun _ _ => rfl

/-- A conjunction of different trigrams is simple, but for those of no part and of one. -/
theorem simplify_and_trigrams {ts : List Trigram} (h : ts.Nodup) :
    simplify (and (ts.map trigram)) = allOf ts := by
  have hnone : (ts.map trigram).any isNone = false := by
    rw [List.any_map]
    exact List.any_eq_false.mpr fun t _ => by simp [isNone]
  have hnodup : (ts.map trigram).Nodup :=
    List.Nodup.map (fun s t hst => Query.trigram.inj hst) h
  rw [simplify, simplifyAll_trigrams, conjunction, hnone, conjuncts_trigrams,
    distinct_of_nodup hnodup]
  rcases ts with _ | ⟨t, _ | ⟨u, ts⟩⟩ <;> rfl

theorem simplify_allOf {ts : List Trigram} (h : ts.Nodup) : simplify (allOf ts) = allOf ts := by
  rcases ts with _ | ⟨t, _ | ⟨u, ts⟩⟩
  · rfl
  · rfl
  · exact simplify_and_trigrams h

theorem disjunction_allOf (ts : List Trigram) : disjunction [allOf ts] = allOf ts := by
  rcases ts with _ | ⟨t, _ | ⟨u, ts⟩⟩ <;> rfl

/-- The windows of a value in ascending order, each once. -/
theorem exists_sorted_windows (value : Bytes) :
    ∃ ts : List Trigram, Bytes.sorted ((windows value).map toBytes) = ts.map toBytes ∧
      Bytes.Ascending (ts.map toBytes) ∧ ∀ t, t ∈ ts ↔ t.toBytes <:+: value := by
  have hmem : ∀ x ∈ Bytes.sorted ((windows value).map toBytes), x ∈ Set.range toBytes := by
    intro x hx
    obtain ⟨t, -, rfl⟩ := List.mem_map.mp (Bytes.mem_sorted.mp hx)
    exact ⟨t, rfl⟩
  have hinjective : Function.Injective toBytes := by
    intro s t h
    obtain ⟨a, b, c⟩ := s
    obtain ⟨a', b', c'⟩ := t
    simpa [toBytes] using h
  obtain ⟨ts, hts⟩ : Bytes.sorted ((windows value).map toBytes) ∈ Set.range (List.map toBytes) := by
    rw [Set.range_list_map]
    exact hmem
  refine ⟨ts, hts.symm, hts ▸ Bytes.ascending_sorted _, fun t => ?_⟩
  rw [← mem_windows, ← List.mem_map_of_injective hinjective, hts, Bytes.mem_sorted,
    List.mem_map_of_injective hinjective]

/-- Only values of three bytes and more have windows. -/
theorem exists_window_iff {value : Bytes} :
    (∃ t : Trigram, t.toBytes <:+: value) ↔ 3 ≤ value.length := by
  constructor
  · intro h
    obtain ⟨t, ht⟩ := h
    exact ht.length_le
  · intro h
    rcases value with _ | ⟨a, _ | ⟨b, _ | ⟨c, rest⟩⟩⟩
    · simp at h
    · simp at h
    · simp at h
    · exact ⟨⟨a, b, c⟩, [], rest, rfl⟩

/-- The condition of a string asks for all of its windows, each once, in ascending order. -/
theorem ofLiteral_eq (value : Bytes) :
    ∃ ts : List Trigram, Bytes.Ascending (ts.map toBytes) ∧ (∀ t, t ∈ ts ↔ t.toBytes <:+: value) ∧
      ts.Nodup ∧ ofLiteral value = allOf ts := by
  obtain ⟨ts, hsorted, hascending, hmem⟩ := exists_sorted_windows value
  have hnodup : ts.Nodup := by
    refine (List.pairwise_map.mp hascending).imp ?_
    intro s t hlt heq
    rw [heq] at hlt
    exact List.lt_irrefl _ hlt
  have hparts : (ts.map toBytes).filterMap ofLiteral.ofBytes? = ts.map trigram := by
    rw [List.filterMap_map]
    exact congrFun (List.filterMap_eq_map (f := trigram)) ts
  refine ⟨ts, hascending, hmem, hnodup, ?_⟩
  rw [ofLiteral, hsorted, hparts, simplify_and_trigrams hnodup]

end Query

/-- The query of a quoted text is the condition of its encoding. -/
theorem toQuery_plainTree (cs : List Char) :
    (analyze (Pattern.plainTree cs)).toQuery = Query.ofLiteral (Utf8.encode cs) := by
  have hexact : analyze (Pattern.plainTree cs) = .exact [Utf8.encode cs] := by
    cases cs with
    | nil => rfl
    | cons c cs => rw [Pattern.plainTree_cons, analyze]
  obtain ⟨ts, -, -, hnodup, hquery⟩ := Query.ofLiteral_eq (Utf8.encode cs)
  rw [hexact, Knowledge.toQuery, List.map_singleton, Query.simplify, Query.simplifyAll, hquery,
    Query.simplify_allOf hnodup, Query.simplifyAll, Query.disjunction_allOf]

end InvertedIndex.Trigram

namespace InvertedIndex.Pattern

open Trigram (Query)

/-- Every text is the value of a pattern, unless the pattern grows too large. The pattern matches that
value only, whatever bytes it is tried on, and its trigrams are those of the value: none are asked for if
there are fewer than three bytes, and else all that occur, each once. -/
theorem literal_matches_own_value (cs : List Char) :
    (literal (Utf8.encode cs) =
      if Automaton.fits (wholeTree cs) then .ok ⟨Escape.quote cs, wholeTree cs⟩
      else .error (.invalidPattern "pattern is too large")) ∧
    (∀ p, literal (Utf8.encode cs) = .ok p → p.text = Escape.quote cs ∧
      ∀ x : Bytes, p.isMatch x = true ↔ x = Utf8.encode cs) ∧
    Query.ofPattern (Escape.quote cs) = .ok (Query.ofLiteral (Utf8.encode cs)) ∧
    ((Utf8.encode cs).length < 3 → Query.ofLiteral (Utf8.encode cs) = .all) ∧
    (3 ≤ (Utf8.encode cs).length → ∃ ts : List Trigram, ts ≠ [] ∧
      Bytes.Ascending (ts.map Trigram.toBytes) ∧ (∀ t, t ∈ ts ↔ t.toBytes <:+: Utf8.encode cs) ∧
      Query.ofLiteral (Utf8.encode cs) = .allOf ts) := by
  obtain ⟨ts, hascending, hmem, -, hquery⟩ := Query.ofLiteral_eq (Utf8.encode cs)
  have hwindow : (∃ t : Trigram, t.toBytes <:+: Utf8.encode cs) ↔ 3 ≤ (Utf8.encode cs).length :=
    Query.exists_window_iff
  refine ⟨?_, fun p hp => ⟨?_, isMatch_literal hp⟩, ?_, fun hshort => ?_, fun hlong => ?_⟩
  · rw [literal_encode, compile_quote_eq]
  · rw [literal_encode] at hp
    exact (compile_quote hp).1
  · rw [Trigram.ofPattern_quote, Trigram.toQuery_plainTree]
  · have hnil : ts = [] := by
      rw [List.eq_nil_iff_forall_not_mem]
      intro t ht
      have hlong := hwindow.mp ⟨t, (hmem t).mp ht⟩
      omega
    rw [hquery, hnil]
    rfl
  · obtain ⟨t, ht⟩ := hwindow.mpr hlong
    exact ⟨ts, List.ne_nil_of_mem ((hmem t).mpr ht), hascending, hmem, hquery⟩

/-- A dot is quoted, and a window begins inside the first character. -/
theorem literal_matches_own_value_dotted :
    ∃ p, literal [0xC3, 0xA9, 0x2E, 0x62] = .ok p ∧ p.text = ['é', '\\', '.', 'b'] ∧
      p.isMatch [0xC3, 0xA9, 0x2E, 0x62] = true ∧ p.isMatch [0xC3, 0xA9, 0x78, 0x62] = false ∧
      Query.ofPattern ['é', '\\', '.', 'b'] =
        .ok (.and [.trigram ⟨0xA9, 0x2E, 0x62⟩, .trigram ⟨0xC3, 0xA9, 0x2E⟩]) ∧
      ∃ ts : List Trigram, ⟨0xA9, 0x2E, 0x62⟩ ∈ ts ∧
        Query.ofLiteral [0xC3, 0xA9, 0x2E, 0x62] = .allOf ts := by
  obtain ⟨p, hp⟩ : ∃ p, literal [0xC3, 0xA9, 0x2E, 0x62] = .ok p := ⟨_, rfl⟩
  obtain ⟨-, hpattern, hquery, -, hlong⟩ := literal_matches_own_value ['é', '.', 'b']
  obtain ⟨htext, hmatch⟩ := hpattern p hp
  obtain ⟨ts, -, -, hmem, hts⟩ := hlong (by decide)
  have hother : ¬ p.isMatch [0xC3, 0xA9, 0x78, 0x62] = true := by
    rw [hmatch]
    decide
  refine ⟨p, hp, htext, (hmatch _).mpr rfl, Bool.eq_false_iff.mpr hother, ?_, ts, ?_, hts⟩
  · exact hquery.trans (congrArg Except.ok (by decide +kernel))
  · exact (hmem _).mpr ⟨[0xC3], [], rfl⟩

end InvertedIndex.Pattern
