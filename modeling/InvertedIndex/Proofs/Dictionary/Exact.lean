import InvertedIndex.Dictionary.Exact
import InvertedIndex.Document
import InvertedIndex.Proofs.ByteMap
import InvertedIndex.Proofs.Postings.Members
import InvertedIndex.Proofs.Results

namespace InvertedIndex

namespace Dictionary

/-- Pairs of a field and a value, each with a number for which it was inserted. -/
abbrev Log := List (PostingsId × Field)

/-- The entries of a dictionary are those of a log. -/
structure Exact.Represents (d : Exact) (log : Log) : Prop where
  holds_field (field : Bytes) :
    d.containsField field = true ↔ ∃ id value, (id, ⟨field, value⟩) ∈ log
  holds_term (field value : Bytes) :
    d.containsTerm field value = true ↔ ∃ id, (id, ⟨field, value⟩) ∈ log
  proper (field value : Bytes) : (d.postings field value).Proper
  holds (field value : Bytes) (id : PostingsId) :
    (d.postings field value).contains id = true ↔ (id, ⟨field, value⟩) ∈ log

namespace Exact

theorem represents_empty : Exact.empty.Represents [] where
  holds_field field := by simp [containsField, Exact.empty, ByteMap.contains]; rfl
  holds_term field value := by simp [containsTerm, postings?, values, Exact.empty]; rfl
  proper field value := Postings.proper_empty
  holds field value id := by
    have hnone : Exact.empty.postings field value = ∅ := rfl
    simp [hnone, Postings.contains_empty]

theorem containsField_insert (d : Exact) (field value : Bytes) (id : PostingsId) (name : Bytes) :
    (d.insert field value id).containsField name = (name == field || d.containsField name) := by
  simp only [containsField, insert, ByteMap.contains, ByteMap.get?_alter]
  split
  · next h => simp [h]
  · next h => simp [h]

theorem containsTerm_insert (d : Exact) (field value : Bytes) (id : PostingsId)
    (name term : Bytes) :
    (d.insert field value id).containsTerm name term =
      ((name == field && term == value) || d.containsTerm name term) := by
  rw [containsTerm, containsTerm, postings?_insert]
  split
  · next h => simp [h]
  · next h =>
    have hne : (name == field && term == value) = false := by
      rw [Bool.eq_false_iff]
      simpa using h
    rw [hne, Bool.false_or]

theorem postings_insert (d : Exact) (field value : Bytes) (id : PostingsId) (name term : Bytes) :
    (d.insert field value id).postings name term =
      if name = field ∧ term = value then (d.postings field value).insert id
      else d.postings name term := by
  rw [postings, postings?_insert]
  split <;> rfl

/-- What was inserted is found under its number, and nothing else is. -/
theorem represents_insert {d : Exact} {log : Log} (h : d.Represents log) (f : Field)
    (id : PostingsId) : (d.insert f.name f.value id).Represents ((id, f) :: log) where
  holds_field field := by
    rw [containsField_insert, Bool.or_eq_true, beq_iff_eq, h.holds_field]
    constructor
    · rintro (rfl | ⟨i, v, hmem⟩)
      · exact ⟨id, f.value, by simp⟩
      · exact ⟨i, v, by simp [hmem]⟩
    · rintro ⟨i, v, hmem⟩
      rcases List.mem_cons.mp hmem with heq | hmem
      · cases heq
        exact .inl rfl
      · exact .inr ⟨i, v, hmem⟩
  holds_term field value := by
    rw [containsTerm_insert, Bool.or_eq_true, Bool.and_eq_true, beq_iff_eq, beq_iff_eq,
      h.holds_term]
    constructor
    · rintro (⟨rfl, rfl⟩ | ⟨i, hmem⟩)
      · exact ⟨id, by simp⟩
      · exact ⟨i, by simp [hmem]⟩
    · rintro ⟨i, hmem⟩
      rcases List.mem_cons.mp hmem with heq | hmem
      · cases heq
        exact .inl ⟨rfl, rfl⟩
      · exact .inr ⟨i, hmem⟩
  proper field value := by
    rw [postings_insert]
    split
    · exact Postings.proper_insert (h.proper f.name f.value) id
    · exact h.proper field value
  holds field value i := by
    rw [postings_insert]
    split
    · next heq =>
      obtain ⟨rfl, rfl⟩ := heq
      rw [Postings.contains_insert (h.proper f.name f.value).ordered, Bool.or_eq_true, beq_iff_eq,
        h.holds, List.mem_cons, Prod.mk.injEq]
      simp [eq_comm]
    · next hne =>
      rw [h.holds, List.mem_cons]
      refine ⟨.inr, fun hmem => hmem.resolve_left fun heq => hne ?_⟩
      cases heq
      exact ⟨rfl, rfl⟩

/-- A dictionary represents what the same pairs in another order make. -/
theorem Represents.of_mem_iff {d : Exact} {log log' : Log} (h : d.Represents log)
    (hlog : ∀ e, e ∈ log ↔ e ∈ log') : d.Represents log' where
  holds_field field := by simp only [h.holds_field, hlog]
  holds_term field value := by simp only [h.holds_term, hlog]
  proper := h.proper
  holds field value id := by rw [h.holds, hlog]

/-- The postings of the values that pass. -/
theorem mem_having_iff {d : Exact} {field : Bytes} {test : Bytes → Bool} {p : Postings} :
    p ∈ ((d.values field).entries.filter fun (value, _) => test value).map Prod.snd ↔
      ∃ value, d.postings? field value = some p ∧ test value = true := by
  rw [List.mem_map]
  constructor
  · rintro ⟨⟨value, q⟩, he, rfl⟩
    obtain ⟨he, htest⟩ := List.mem_filter.mp he
    exact ⟨value, ByteMap.mem_entries_iff.mp he, htest⟩
  · rintro ⟨value, hp, htest⟩
    exact ⟨(value, p), List.mem_filter.mpr ⟨ByteMap.mem_entries_iff.mpr hp, htest⟩, rfl⟩

theorem postings_of_postings? {d : Exact} {field value : Bytes} {p : Postings}
    (h : d.postings? field value = some p) : d.postings field value = p := by
  rw [postings, h]
  rfl

theorem proper_of_mem_having {d : Exact} {log : Log} (h : d.Represents log) {field : Bytes}
    {test : Bytes → Bool} {p : Postings}
    (hp : p ∈ ((d.values field).entries.filter fun (value, _) => test value).map Prod.snd) :
    p.Proper := by
  obtain ⟨value, hp, -⟩ := mem_having_iff.mp hp
  rw [← postings_of_postings? hp]
  exact h.proper field value

/-- The union of the postings of some values is in order. -/
theorem proper_having {d : Exact} {log : Log} (h : d.Represents log) (field : Bytes)
    (test : Bytes → Bool) : (d.having field test).Proper :=
  Postings.proper_unionOf fun _ hp => proper_of_mem_having h hp

/-- The numbers of the pairs whose value passes. -/
theorem contains_having {d : Exact} {log : Log} (h : d.Represents log) (field : Bytes)
    (test : Bytes → Bool) (id : PostingsId) :
    (d.having field test).contains id = true ↔
      ∃ value, (id, ⟨field, value⟩) ∈ log ∧ test value = true := by
  rw [having, Postings.contains_unionOf fun _ hp => (proper_of_mem_having h hp).ordered,
    List.any_eq_true]
  constructor
  · rintro ⟨p, hp, hid⟩
    obtain ⟨value, hp, htest⟩ := mem_having_iff.mp hp
    rw [← postings_of_postings? hp, h.holds] at hid
    exact ⟨value, hid, htest⟩
  · rintro ⟨value, hmem, htest⟩
    obtain ⟨p, hp⟩ := Option.isSome_iff_exists.mp ((h.holds_term field value).mpr ⟨id, hmem⟩)
    refine ⟨p, mem_having_iff.mpr ⟨value, hp, htest⟩, ?_⟩
    rw [← postings_of_postings? hp, h.holds]
    exact hmem

end Exact

end Dictionary

end InvertedIndex
