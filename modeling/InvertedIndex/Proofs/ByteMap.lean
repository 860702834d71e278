import InvertedIndex.ByteMap

namespace InvertedIndex.ByteMap

variable {α : Type}

theorem lookup_eq_some_iff {es : List (Bytes × α)} (h : Bytes.Ascending (es.map Prod.fst))
    {k : Bytes} {a : α} : es.lookup k = some a ↔ (k, a) ∈ es := by
  induction es with
  | nil => simp
  | cons e es ih =>
    obtain ⟨j, b⟩ := e
    obtain ⟨hj, hes⟩ := List.pairwise_cons.mp h
    rw [List.lookup_cons, List.mem_cons, ← ih hes]
    by_cases hkj : k = j
    · subst hkj
      have hnot : es.lookup k ≠ some a := by
        intro hlookup
        have hmem := (ih hes).mp hlookup
        exact List.lt_irrefl k (hj k (List.mem_map_of_mem hmem))
      simp [hnot, eq_comm]
    · have hbeq : (k == j) = false := beq_eq_false_iff_ne.mpr hkj
      simp [hbeq, hkj]

/-- Look-ups in a map find just its entries. -/
theorem mem_entries_iff {m : ByteMap α} {k : Bytes} {a : α} :
    (k, a) ∈ m.entries ↔ m.get? k = some a :=
  (lookup_eq_some_iff m.ascending).symm

theorem mem_keys_iff {m : ByteMap α} {k : Bytes} : k ∈ m.keys ↔ m.contains k = true := by
  rw [keys, List.mem_map, contains, Option.isSome_iff_exists]
  constructor
  · rintro ⟨⟨j, a⟩, he, rfl⟩
    exact ⟨a, mem_entries_iff.mp he⟩
  · rintro ⟨a, ha⟩
    exact ⟨(k, a), mem_entries_iff.mpr ha, rfl⟩

end InvertedIndex.ByteMap
