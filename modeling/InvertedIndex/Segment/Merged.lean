import InvertedIndex.ByteMap
import InvertedIndex.Document

namespace InvertedIndex.Segment

/-- Documents that are merged by their identifiers, in the order in which they come. Removing one leaves
a hole, so that no other document changes its place. -/
structure Merged where
  /-- The documents that were added, with holes where one was removed. -/
  slots : Array (Option Document)
  /-- From identifiers to slots. -/
  places : ByteMap Nat
  inStep (id : Bytes) (slot : Nat) :
    places.get? id = some slot ↔ ∃ d, slots[slot]? = some (some d) ∧ d.id = some id

namespace Merged

def empty : Merged where
  slots := #[]
  places := ∅
  inStep := by
    intro id slot
    have hnone : (∅ : ByteMap Nat).get? id = none := rfl
    simp [hnone]

/-- A document that is pushed and has no identifier has no place. -/
theorem inStep_push_anonymous (m : Merged) {d : Document} (h : d.id = none) (id : Bytes) (slot : Nat) :
    m.places.get? id = some slot ↔
      ∃ e, (m.slots.push (some d))[slot]? = some (some e) ∧ e.id = some id := by
  rw [m.inStep, Array.getElem?_push]
  split
  · next hslot => simp [hslot, h]
  · rfl

theorem inStep_push (m : Merged) {d : Document} {i : Bytes} (hd : d.id = some i)
    (hnew : m.places.get? i = none) (id : Bytes) (slot : Nat) :
    (m.places.insert i m.slots.size).get? id = some slot ↔
      ∃ e, (m.slots.push (some d))[slot]? = some (some e) ∧ e.id = some id := by
  rw [ByteMap.get?_insert, Array.getElem?_push]
  have hold := m.inStep id slot
  by_cases hslot : slot = m.slots.size
  · have hfree : m.places.get? id ≠ some slot := by
      rw [Ne, hold, hslot]
      simp
    rw [if_pos hslot]
    by_cases hid : id = i
    · simp [hid, hd, hslot]
    · have hne : ¬ i = id := fun h => hid h.symm
      simp [hid, hd, hne, hfree]
  · rw [if_neg hslot]
    by_cases hid : id = i
    · have hne : ¬ m.slots.size = slot := fun h => hslot h.symm
      have hnone : ¬ ∃ e, m.slots[slot]? = some (some e) ∧ e.id = some id := by
        rw [← hold, hid, hnew]
        simp
      rw [if_pos hid, Option.some.injEq]
      exact iff_of_false hne hnone
    · rw [if_neg hid, hold]

/-- Adds a document, unless one with its identifier is there. -/
def add (m : Merged) (d : Document) : Merged :=
  match hd : d.id with
  | none => ⟨m.slots.push (some d), m.places, m.inStep_push_anonymous hd⟩
  | some id =>
    match hplace : m.places.get? id with
    | some _ => m
    | none =>
      ⟨m.slots.push (some d), m.places.insert id m.slots.size, m.inStep_push hd hplace⟩

theorem inStep_erase (m : Merged) {i : Bytes} {place : Nat} (hplace : m.places.get? i = some place)
    (id : Bytes) (slot : Nat) :
    (m.places.erase i).get? id = some slot ↔
      ∃ e, (m.slots.setIfInBounds place none)[slot]? = some (some e) ∧ e.id = some id := by
  obtain ⟨d, hd, hid⟩ := (m.inStep i place).mp hplace
  rw [ByteMap.get?_erase, Array.getElem?_setIfInBounds]
  by_cases hslot : place = slot
  · subst hslot
    have hout : m.places.get? id = some place → id = i := by
      intro h
      obtain ⟨e, he, heid⟩ := (m.inStep id place).mp h
      rw [hd, Option.some.injEq, Option.some.injEq] at he
      rw [← he, hid, Option.some.injEq] at heid
      exact heid.symm
    by_cases heq : id = i
    · simp [heq]
    · have hnot : m.places.get? id ≠ some place := fun h => heq (hout h)
      simp [heq, hnot]
  · rw [if_neg hslot]
    by_cases heq : id = i
    · have hnone : ¬ ∃ e, m.slots[slot]? = some (some e) ∧ e.id = some id := by
        rw [← m.inStep, heq, hplace, Option.some.injEq]
        exact hslot
      rw [if_pos heq]
      exact iff_of_false (by simp) hnone
    · rw [if_neg heq, m.inStep]

/-- Removes the document with an identifier, if there is one. -/
def remove (m : Merged) (id : Bytes) : Merged :=
  match hplace : m.places.get? id with
  | some place => ⟨m.slots.setIfInBounds place none, m.places.erase id, m.inStep_erase hplace⟩
  | none => m

/-- What is left, in order. -/
def live (m : Merged) : List Document := m.slots.toList.filterMap id

end Merged

end InvertedIndex.Segment
