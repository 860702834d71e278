import InvertedIndex.Bytes

namespace InvertedIndex.Bytes

theorem lt_of_not_lt_of_ne {x y : Bytes} (h : ¬ x < y) (hne : x ≠ y) : y < x :=
  Std.lt_of_le_of_ne h hne.symm

/-- Strictly ascending lists. -/
def Ascending (xs : List Bytes) : Prop := xs.Pairwise (· < ·)

/-- Adds a member to an ascending list. -/
def insert (x : Bytes) : List Bytes → List Bytes
  | [] => [x]
  | y :: ys =>
    if x < y then x :: y :: ys
    else if x = y then y :: ys
    else y :: insert x ys

/-- The members of a list in ascending order, each once. -/
def sorted (xs : List Bytes) : List Bytes := xs.foldr insert []

theorem insert_cons (x y : Bytes) (ys : List Bytes) :
    insert x (y :: ys) =
      if x < y then x :: y :: ys else if x = y then y :: ys else y :: insert x ys := rfl

theorem mem_insert {x y : Bytes} {ys : List Bytes} : y ∈ insert x ys ↔ y = x ∨ y ∈ ys := by
  induction ys with
  | nil => simp [insert]
  | cons z ys ih =>
    rw [insert_cons]
    split
    · simp
    · split
      · next hxz => simp [hxz]
      · simp only [List.mem_cons, ih]
        grind

theorem ascending_insert {x : Bytes} {ys : List Bytes} (h : Ascending ys) :
    Ascending (insert x ys) := by
  induction ys with
  | nil => simp [insert, Ascending]
  | cons y ys ih =>
    obtain ⟨hy, hys⟩ := List.pairwise_cons.mp h
    rw [insert_cons]
    split
    · next hxy =>
      refine List.pairwise_cons.mpr ⟨?_, h⟩
      intro z hz
      rcases List.mem_cons.mp hz with rfl | hz
      · exact hxy
      · exact List.lt_trans hxy (hy z hz)
    · next hxy =>
      split
      · exact h
      · next hne =>
        refine List.pairwise_cons.mpr ⟨?_, ih hys⟩
        intro z hz
        rcases mem_insert.mp hz with rfl | hz
        · exact lt_of_not_lt_of_ne hxy hne
        · exact hy z hz

theorem mem_sorted {x : Bytes} {xs : List Bytes} : x ∈ sorted xs ↔ x ∈ xs := by
  induction xs with
  | nil => simp [sorted]
  | cons y ys ih =>
    have h : sorted (y :: ys) = insert y (sorted ys) := rfl
    rw [h, mem_insert, ih, List.mem_cons]

theorem ascending_sorted (xs : List Bytes) : Ascending (sorted xs) := by
  induction xs with
  | nil => simp [sorted, Ascending]
  | cons y ys ih => exact ascending_insert ih

end InvertedIndex.Bytes
