import InvertedIndex.Postings.Changes
import InvertedIndex.Proofs.Postings.Canonical
import Mathlib.Data.Finset.Card

namespace InvertedIndex.Postings

namespace Lows

/-- The members as a finite set. -/
def members (s : Lows) : Finset Nat := s.toList.toFinset

@[simp] theorem mem_members {s : Lows} {x : Nat} : x ∈ s.members ↔ s.contains x = true := by
  rw [members, List.mem_toFinset, mem_toList]

theorem card_members (s : Lows) : s.members.card = s.size := by
  rw [members, List.toFinset_card_of_nodup, length_toList]
  exact s.ascending_toList.imp fun hlt => Nat.ne_of_lt hlt

theorem members_union (s t : Lows) : (s.union t).members = s.members ∪ t.members := by
  ext x
  simp

theorem members_inter (s t : Lows) : (s.inter t).members = s.members ∩ t.members := by
  ext x
  simp

theorem members_diff (s t : Lows) : (s.diff t).members = s.members \ t.members := by
  ext x
  simp

/-- A union grows by those members that were missing. -/
theorem size_union (s t : Lows) : (s.union t).size = s.size + (t.size - (s.inter t).size) := by
  have hadd := Finset.card_union_add_card_inter s.members t.members
  have hle : (s.members ∩ t.members).card ≤ t.members.card :=
    Finset.card_le_card Finset.inter_subset_right
  rw [← members_union, ← members_inter, card_members, card_members, card_members, card_members] at hadd
  rw [← members_inter, card_members, card_members] at hle
  omega

theorem size_diff (s t : Lows) : (s.diff t).size + (s.inter t).size = s.size := by
  have hadd := Finset.card_sdiff_add_card_inter s.members t.members
  rwa [← members_diff, ← members_inter, card_members, card_members, card_members] at hadd

end Lows

namespace Block

/-- The size of a block that may not be there. -/
def sizeOf (b : Option Block) : Nat := b.elim 0 size

@[simp] theorem sizeOf_none : sizeOf none = 0 := rfl

@[simp] theorem sizeOf_some (b : Block) : sizeOf (some b) = b.size := rfl

theorem sizeOf_nonempty? (b : Block) : sizeOf b.nonempty? = b.size := by
  unfold nonempty?
  split
  · next hempty =>
    have hnone : b.lows = .empty := Lows.isEmpty_iff.mp hempty
    rw [size, hnone]
    rfl
  · rfl

theorem size_insertRange (b : Block) (lo hi : Nat) :
    (b.insertRange lo hi).size = b.size + b.missingBetween lo hi := Lows.size_union _ _

theorem sizeOf_removeRange? (b : Block) (lo hi : Nat) :
    sizeOf (b.removeRange? lo hi) + b.countBetween lo hi = b.size := by
  rw [removeRange?, sizeOf_nonempty?]
  exact Lows.size_diff _ _

end Block

variable {p : Postings}

theorem size_eq_sum (p : Postings) : p.size = (p.blocks.map Block.size).sum := by
  rw [size]
  induction p.blocks with
  | nil => rfl
  | cons b bs ih => rw [List.foldr_cons, ih, List.map_cons, List.sum_cons]

theorem length_toList (p : Postings) : p.toList.length = p.size := by
  rw [toList_eq_flatMap, size_eq_sum, List.length_flatMap]
  congr 2
  funext b
  rw [Block.ids, List.length_map, Lows.length_toList, Block.size]

theorem sum_toList_size (b : Option Block) : (b.toList.map Block.size).sum = Block.sizeOf b := by
  cases b <;> simp

/-- A change of one block is a change of the size of that block. -/
theorem size_alter (h : p.Ordered) (key : Nat) (f : Option Block → Option Block) :
    (p.alter key f).size + Block.sizeOf (p.find? key) = p.size + Block.sizeOf (f (p.find? key)) := by
  have hparts : p.blocks = p.blocks.filter (·.key < key) ++ ((p.find? key).toList
      ++ p.blocks.filter (key < ·.key)) := by
    rw [find?_eq h, ← take_countP (ordered_iff.mp h), ← drop_countP (ordered_iff.mp h),
      List.take_append_drop]
  have hbefore := congrArg (fun bs => (bs.map Block.size).sum) hparts
  simp only [List.map_append, List.sum_append, sum_toList_size] at hbefore
  rw [alter_eq h, size_eq_sum, size_eq_sum, hbefore]
  simp only [List.map_append, List.sum_append, sum_toList_size]
  omega

theorem size_getD (b : Option Block) (key : Nat) : (b.getD (.empty key)).size = Block.sizeOf b := by
  cases b <;> rfl

theorem size_fill (h : p.Ordered) (lo hi key : Nat) :
    (fill lo hi p key).size = p.size + p.missingAt lo hi key := by
  have hsize := size_alter h key fun b =>
    some ((b.getD (.empty key)).insertRange (lo - 0x10000 * key) (hi - 0x10000 * key))
  rw [Block.sizeOf_some, Block.size_insertRange, size_getD] at hsize
  rw [fill, missingAt]
  omega

/-- What one block lacks has nothing to do with the others. -/
theorem missingAt_fill (h : p.Ordered) (lo hi : Nat) {key k : Nat} (hne : k ≠ key) :
    (fill lo hi p key).missingAt lo hi k = p.missingAt lo hi k := by
  have hkey (b : Block) (hb : some (((p.find? key).getD (.empty key)).insertRange
      (lo - 0x10000 * key) (hi - 0x10000 * key)) = some b) : b.key = key := by
    rw [← Option.some.inj hb, Block.key_insertRange, key_getD h]
  rw [missingAt, fill, find?_alter h hkey, if_neg hne, missingAt]

theorem size_foldl_fill (h : p.Ordered) (lo hi : Nat) {ks : List Nat} (hks : ks.Nodup) :
    (ks.foldl (fill lo hi) p).size
      = p.size + ks.foldr (fun k n => p.missingAt lo hi k + n) 0 := by
  induction ks generalizing p with
  | nil => rfl
  | cons k ks ih =>
    obtain ⟨hk, hks⟩ := List.nodup_cons.mp hks
    have hrest : ks.foldr (fun l n => (fill lo hi p k).missingAt lo hi l + n) 0
        = ks.foldr (fun l n => p.missingAt lo hi l + n) 0 := by
      apply List.foldr_ext
      intro l hl n
      have hne : l ≠ k := fun heq => hk (heq ▸ hl)
      rw [missingAt_fill h lo hi hne]
    rw [List.foldl_cons, ih (ordered_fill h lo hi k) hks, size_fill h, hrest, List.foldr_cons,
      Nat.add_assoc]

/-- What an insertion counts block by block is what the size grows by. -/
theorem size_insertBetween (h : p.Ordered) (lo hi : Nat) :
    (p.insertBetween lo hi).size = p.size + p.addedBetween lo hi := by
  rw [insertBetween, addedBetween]
  split
  · rfl
  · split
    · next heq =>
      rw [size_fill h, ← heq, Nat.sub_self]
      simp
    · have hkey (b : Block) (hb : some ((p.find? (lo / 0x10000)).getD (.empty (lo / 0x10000)))
          = some b) : b.key = lo / 0x10000 := by
        rw [← Option.some.inj hb, key_getD h]
      have hsize := size_alter h (lo / 0x10000) fun b => some (b.getD (.empty (lo / 0x10000)))
      have hmissing : (p.alter (lo / 0x10000) fun b =>
          some (b.getD (.empty (lo / 0x10000)))).missingAt lo hi = p.missingAt lo hi := by
        funext k
        rw [missingAt, missingAt, find?_alter h hkey]
        split
        · next hk => rw [hk, Option.getD_some]
        · rfl
      rw [Block.sizeOf_some, size_getD] at hsize
      rw [size_foldl_fill (ordered_alter h hkey) lo hi List.nodup_range', hmissing]
      omega

theorem size_filterMap (bs : List Block) (f : Block → Option Block) :
    (⟨bs.filterMap f⟩ : Postings).size = bs.foldr (fun b n => Block.sizeOf (f b) + n) 0 := by
  induction bs with
  | nil => rfl
  | cons b bs ih =>
    rw [List.filterMap_cons, List.foldr_cons, ← ih]
    cases f b with
    | none => exact (Nat.zero_add _).symm
    | some c => rfl

/-- What a removal counts block by block is what the size goes down by. -/
theorem size_removeBetween (p : Postings) (lo hi : Nat) :
    (p.removeBetween lo hi).size + p.droppedBetween lo hi = p.size := by
  rw [removeBetween, droppedBetween]
  split
  · rfl
  · rw [size_filterMap, size]
    induction p.blocks with
    | nil => rfl
    | cons b bs ih =>
      rw [List.foldr_cons, List.foldr_cons, List.foldr_cons, ← ih, presentIn]
      split
      · have hblock := Block.sizeOf_removeRange? b (lo - 0x10000 * b.key) (hi - 0x10000 * b.key)
        omega
      · rw [Block.sizeOf_some]
        omega

end InvertedIndex.Postings
