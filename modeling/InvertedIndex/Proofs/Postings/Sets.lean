import InvertedIndex.Proofs.Postings.Walk
import Mathlib.Data.Finset.SymmDiff
import Mathlib.Data.FinEnum

namespace InvertedIndex.Postings

/-- The list has these members, in canonical form. -/
structure Represents (p : Postings) (s : Finset PostingsId) : Prop where
  canonical : p.Canonical
  mem_iff : ∀ id, id ∈ s ↔ p.contains id = true

/-- The numbers from `lo` up to and without `hi`. -/
def between (lo hi : PostingsId) : Finset PostingsId := {id | lo ≤ id ∧ id < hi}

theorem mem_between {lo hi id : PostingsId} : id ∈ between lo hi ↔ lo ≤ id ∧ id < hi := by
  simp [between]

variable {p q : Postings} {s t : Finset PostingsId}

/-- Each set has one list. -/
theorem Represents.eq_iff (hp : p.Represents s) (hq : q.Represents t) : p = q ↔ s = t := by
  constructor
  · rintro rfl
    ext id
    rw [hp.mem_iff, hq.mem_iff]
  · rintro rfl
    apply hp.canonical.eq_of_contains hq.canonical
    intro id
    rw [Bool.eq_iff_iff, ← hp.mem_iff, ← hq.mem_iff]

theorem Represents.mem_toList (h : p.Represents s) {id : PostingsId} : id ∈ p.toList ↔ id ∈ s := by
  rw [Postings.mem_toList h.canonical.proper, h.mem_iff]

theorem Represents.ascending (h : p.Represents s) : p.toList.Pairwise (· < ·) :=
  ascending_toList h.canonical.proper

theorem Represents.size_eq (h : p.Represents s) : p.size = s.card := by
  have hset : p.toList.toFinset = s := by
    ext id
    rw [List.mem_toFinset, h.mem_toList]
  have hdistinct : p.toList.Nodup := h.ascending.imp UInt32.ne_of_lt
  rw [← hset, List.toFinset_card_of_nodup hdistinct, length_toList]

theorem represents_empty : (∅ : Postings).Represents ∅ :=
  ⟨canonical_empty, fun id => by simp⟩

theorem represents_ofList (ids : List PostingsId) : (ofList ids).Represents ids.toFinset := by
  refine ⟨canonical_ofList ids, fun id => ?_⟩
  rw [List.mem_toFinset, contains_ofList, List.contains_iff_mem]

theorem Represents.insert (h : p.Represents s) (id : PostingsId) :
    (p.insert id).Represents (Insert.insert id s) := by
  refine ⟨canonical_insert h.canonical id, fun x => ?_⟩
  rw [contains_insert h.canonical.proper.ordered, Finset.mem_insert, h.mem_iff]
  grind

theorem Represents.remove (h : p.Represents s) (id : PostingsId) :
    (p.remove id).Represents (s.erase id) := by
  refine ⟨canonical_remove h.canonical id, fun x => ?_⟩
  rw [contains_remove h.canonical.proper.ordered, Finset.mem_erase, h.mem_iff]
  grind

theorem Represents.insertRange (h : p.Represents s) (lo hi : PostingsId) :
    (p.insertRange lo hi).Represents (s ∪ between lo hi) := by
  refine ⟨canonical_insertBetween h.canonical lo.toNat (Nat.le_of_lt hi.toNat_lt_size), fun x => ?_⟩
  rw [contains_insertRange h.canonical.proper.ordered, Finset.mem_union, mem_between, h.mem_iff]
  simp

theorem represents_ofRange (lo hi : PostingsId) : (ofRange lo hi).Represents (between lo hi) := by
  have hrange := represents_empty.insertRange lo hi
  rwa [Finset.empty_union] at hrange

theorem Represents.removeRange (h : p.Represents s) (lo hi : PostingsId) :
    (p.removeRange lo hi).Represents (s \ between lo hi) := by
  refine ⟨canonical_removeBetween h.canonical lo.toNat hi.toNat, fun x => ?_⟩
  rw [contains_removeRange h.canonical.proper.ordered, Finset.mem_sdiff, mem_between, h.mem_iff]
  grind

theorem Represents.truncate (h : p.Represents s) (min : PostingsId) :
    (p.truncate min).Represents {id ∈ s | id < min} := by
  refine ⟨canonical_removeBetween h.canonical min.toNat _, fun x => ?_⟩
  rw [contains_truncate h.canonical.proper.ordered, Finset.mem_filter, h.mem_iff]
  simp

theorem Represents.inter (h : p.Represents s) (hq : q.Represents t) :
    (p.inter q).Represents (s ∩ t) := by
  refine ⟨canonical_inter h.canonical q, fun x => ?_⟩
  rw [contains_inter h.canonical.proper.ordered, Finset.mem_inter, h.mem_iff, hq.mem_iff,
    Bool.and_eq_true]

theorem Represents.union (h : p.Represents s) (hq : q.Represents t) :
    (p.union q).Represents (s ∪ t) := by
  refine ⟨canonical_union h.canonical hq.canonical, fun x => ?_⟩
  rw [contains_union h.canonical.proper.ordered hq.canonical.proper.ordered, Finset.mem_union,
    h.mem_iff, hq.mem_iff, Bool.or_eq_true]

theorem Represents.diff (h : p.Represents s) (hq : q.Represents t) :
    (p.diff q).Represents (s \ t) := by
  refine ⟨canonical_diff h.canonical q, fun x => ?_⟩
  rw [contains_diff h.canonical.proper.ordered, Finset.mem_sdiff, h.mem_iff, hq.mem_iff]
  simp

/-- An insertion tells whether it changed the set. -/
theorem Represents.insertTelling_snd (h : p.Represents s) (id : PostingsId) :
    (p.insertTelling id).2 = decide (s ≠ Insert.insert id s) := by
  have hsame : s ≠ Insert.insert id s ↔ id ∉ s := by
    rw [ne_eq, eq_comm, Finset.insert_eq_self]
  rw [Bool.eq_iff_iff, decide_eq_true_iff, hsame, h.mem_iff, insertTelling]
  simp

theorem Represents.removeTelling_snd (h : p.Represents s) (id : PostingsId) :
    (p.removeTelling id).2 = decide (s ≠ s.erase id) := by
  have hsame : s ≠ s.erase id ↔ id ∈ s := by
    rw [ne_eq, eq_comm, Finset.erase_eq_self, not_not]
  rw [Bool.eq_iff_iff, decide_eq_true_iff, hsame, h.mem_iff, removeTelling]

/-- Between a set and a larger one the difference in size is what has changed. -/
theorem card_symmDiff_of_subset (hsub : s ⊆ t) : (symmDiff s t).card = t.card - s.card := by
  rw [symmDiff_of_le hsub, Finset.card_sdiff_of_subset hsub]

/-- The insertion of a range tells how many members it brought. -/
theorem Represents.insertRangeTelling_snd (h : p.Represents s) (lo hi : PostingsId) :
    (p.insertRangeTelling lo hi).2 = (symmDiff s (s ∪ between lo hi)).card := by
  have hsize := size_insertBetween h.canonical.proper.ordered lo.toNat hi.toNat
  have hafter := (h.insertRange lo hi).size_eq
  rw [Postings.insertRange] at hafter
  rw [card_symmDiff_of_subset Finset.subset_union_left, ← hafter, ← h.size_eq, hsize,
    insertRangeTelling, Nat.add_sub_cancel_left]

theorem Represents.droppedBetween_eq (h : p.Represents s) {lo hi : Nat}
    (hafter : (p.removeBetween lo hi).Represents t) (hsub : t ⊆ s) :
    p.droppedBetween lo hi = (symmDiff s t).card := by
  have hsize := size_removeBetween p lo hi
  rw [symmDiff_comm, card_symmDiff_of_subset hsub, ← hafter.size_eq, ← h.size_eq, ← hsize,
    Nat.add_sub_cancel_left]

/-- The removal of a range tells how many members it took. -/
theorem Represents.removeRangeTelling_snd (h : p.Represents s) (lo hi : PostingsId) :
    (p.removeRangeTelling lo hi).2 = (symmDiff s (s \ between lo hi)).card :=
  h.droppedBetween_eq (h.removeRange lo hi) Finset.sdiff_subset

theorem Represents.truncateTelling_snd (h : p.Represents s) (min : PostingsId) :
    (p.truncateTelling min).2 = (symmDiff s {id ∈ s | id < min}).card :=
  h.droppedBetween_eq (h.truncate min) (Finset.filter_subset _ s)

end InvertedIndex.Postings
