import InvertedIndex.Postings.Boundaries

namespace InvertedIndex.Postings

/-- Sets of numbers below `2 ^ 16`. -/
structure Lows where
  bounds : List Nat
  ascending : Boundaries.Ascending bounds
  isFinite : Boundaries.atEnd false bounds = false
  bounded : ∀ b ∈ bounds, b ≤ 0x10000

namespace Lows

open Boundaries

/-- The first number that no set has. -/
def limit : Nat := 0x10000

@[ext] theorem ext {s t : Lows} (h : s.bounds = t.bounds) : s = t := by
  cases s
  cases t
  cases h
  rfl

instance : DecidableEq Lows := fun s t =>
  decidable_of_iff (s.bounds = t.bounds) ⟨ext, fun h => h ▸ rfl⟩

def empty : Lows := ⟨[], List.Pairwise.nil, rfl, by simp⟩

instance : EmptyCollection Lows := ⟨empty⟩

/-- The numbers from `lo` up to and without `hi`. -/
def between (lo hi : Nat) : Lows :=
  if hlt : lo < min hi 0x10000 then
    { bounds := [lo, min hi 0x10000]
      ascending := List.pairwise_pair.2 hlt
      isFinite := rfl
      bounded := by
        intro b hb
        simp only [List.mem_cons, List.not_mem_nil, or_false] at hb
        omega }
  else empty

def single (x : Nat) : Lows := between x (x + 1)

def combine (f : Bool → Bool → Bool) (hf : f false false = false) (s t : Lows) : Lows where
  bounds := sweep f false false s.bounds t.bounds
  ascending := ascending_sweep s.ascending t.ascending
  isFinite := by
    have h := atEnd_sweep f false false s.bounds t.bounds
    rwa [s.isFinite, t.isFinite, hf] at h
  bounded b hb := (mem_sweep hb).elim (s.bounded b) (t.bounded b)

def union (s t : Lows) : Lows := combine (· || ·) rfl s t

def inter (s t : Lows) : Lows := combine (· && ·) rfl s t

def diff (s t : Lows) : Lows := combine (fun a b => a && !b) rfl s t

def contains (s : Lows) (x : Nat) : Bool := inside false s.bounds x

def size (s : Lows) : Nat := count s.bounds

def isEmpty (s : Lows) : Bool := s.bounds.isEmpty

/-- The members in ascending order. -/
def toList (s : Lows) : List Nat := members s.bounds

def least? (s : Lows) : Option Nat := s.bounds.head?

def greatest? (s : Lows) : Option Nat := s.bounds.getLast?.map (· - 1)

def pairs : List Lows → List Lows
  | s :: t :: rest => s.union t :: pairs rest
  | ss => ss

theorem length_pairs_le (ss : List Lows) : (pairs ss).length ≤ ss.length := by
  fun_induction pairs ss with
  | case1 s t rest ih => simp only [List.length_cons]; omega
  | case2 => exact Nat.le_refl _

/-- The union of all. It is taken in pairs, so that many small sets cost little. -/
def unionOf : List Lows → Lows
  | [] => empty
  | [s] => s
  | s :: t :: rest => unionOf (s.union t :: pairs rest)
termination_by ss => ss.length
decreasing_by
  have h := length_pairs_le rest
  simp only [List.length_cons]
  omega

/-- Puts a number in front of runs, which joins the first one if it can. -/
def extend (x : Nat) : List (Nat × Nat) → List (Nat × Nat)
  | (lo, hi) :: rest => if x + 1 = lo then (x, hi) :: rest else (x, x + 1) :: (lo, hi) :: rest
  | [] => [(x, x + 1)]

def ofList (xs : List Nat) : Lows :=
  unionOf ((xs.foldr extend []).map fun (lo, hi) => between lo hi)

/-- A set is determined by its members. -/
theorem ext_contains {s t : Lows} (h : ∀ x, s.contains x = t.contains x) : s = t :=
  ext (eq_of_inside_eq s.ascending t.ascending h)

@[simp] theorem contains_empty (x : Nat) : empty.contains x = false := rfl

theorem isEmpty_iff {s : Lows} : s.isEmpty = true ↔ s = empty := by
  rw [isEmpty, List.isEmpty_iff]
  exact ⟨fun h => ext h, fun h => h ▸ rfl⟩

theorem lt_limit_of_contains {s : Lows} {x : Nat} (h : s.contains x = true) : x < limit := by
  have key (on : Bool) (bs : List Nat) (hb : ∀ b ∈ bs, b ≤ limit) (hend : atEnd on bs = false)
      (h : inside on bs x = true) : x < limit := by
    induction bs generalizing on with
    | nil =>
      rw [atEnd_nil] at hend
      rw [inside_nil, hend] at h
      exact absurd h (by decide)
    | cons b bs ih =>
      rw [inside_cons] at h
      split at h
      · next hlt => exact Nat.lt_of_lt_of_le hlt (hb b (by simp))
      · exact ih (!on) (fun c hc => hb c (by simp [hc])) hend h
  exact key false s.bounds s.bounded s.isFinite h

theorem contains_between (lo hi x : Nat) :
    (between lo hi).contains x = (decide (lo ≤ x) && decide (x < hi) && decide (x < limit)) := by
  unfold between contains limit
  split
  · simp only [inside_cons, inside_nil]
    grind
  · simp only [empty, inside_nil]
    grind

@[simp] theorem contains_single (x y : Nat) :
    (single x).contains y = (x == y && decide (y < limit)) := by
  rw [single, contains_between, Bool.eq_iff_iff]
  simp only [Bool.and_eq_true, decide_eq_true_eq, beq_iff_eq]
  omega

/-- Whatever combines two sets, it combines their memberships. -/
theorem contains_combine (f : Bool → Bool → Bool) (hf : f false false = false) (s t : Lows)
    (x : Nat) : (combine f hf s t).contains x = f (s.contains x) (t.contains x) := by
  have h := inside_sweep (f := f) (a := false) (b := false) s.ascending t.ascending x
  rwa [hf] at h

@[simp] theorem contains_union (s t : Lows) (x : Nat) :
    (s.union t).contains x = (s.contains x || t.contains x) := contains_combine _ _ s t x

@[simp] theorem contains_inter (s t : Lows) (x : Nat) :
    (s.inter t).contains x = (s.contains x && t.contains x) := contains_combine _ _ s t x

@[simp] theorem contains_diff (s t : Lows) (x : Nat) :
    (s.diff t).contains x = (s.contains x && !t.contains x) := contains_combine _ _ s t x

theorem any_pairs (ss : List Lows) (x : Nat) :
    (pairs ss).any (·.contains x) = ss.any (·.contains x) := by
  fun_induction pairs ss with
  | case1 s t rest ih => simp [ih, Bool.or_assoc]
  | case2 => rfl

theorem contains_unionOf (ss : List Lows) (x : Nat) :
    (unionOf ss).contains x = ss.any (·.contains x) := by
  fun_induction unionOf ss with
  | case1 => rfl
  | case2 s => simp
  | case3 s t rest ih => simp [ih, any_pairs, Bool.or_assoc]

/-- A number lies in one of the runs. -/
def covered (runs : List (Nat × Nat)) (y : Nat) : Bool :=
  runs.any fun (lo, hi) => decide (lo ≤ y) && decide (y < hi)

theorem proper_extend {x : Nat} {runs : List (Nat × Nat)} (h : ∀ r ∈ runs, r.1 < r.2) :
    ∀ r ∈ extend x runs, r.1 < r.2 := by
  unfold extend
  split
  · split
    · next lo hi rest hx =>
      have hlo := h (lo, hi) (by simp)
      intro r hr
      rcases List.mem_cons.mp hr with rfl | hr
      · simp only at hlo ⊢; omega
      · exact h r (by simp [hr])
    · intro r hr
      rcases List.mem_cons.mp hr with rfl | hr
      · simp
      · exact h r hr
  · simp

theorem covered_extend {x : Nat} {runs : List (Nat × Nat)} (h : ∀ r ∈ runs, r.1 < r.2) (y : Nat) :
    covered (extend x runs) y = (x == y || covered runs y) := by
  unfold extend
  split
  · split
    · next lo hi rest hx =>
      have hlo := h (lo, hi) (by simp)
      simp only [covered, List.any_cons]
      grind
    · simp only [covered, List.any_cons]
      grind
  · simp only [covered, List.any_cons, List.any_nil]
    grind

theorem proper_runs (xs : List Nat) : ∀ r ∈ xs.foldr extend [], r.1 < r.2 := by
  induction xs with
  | nil => simp
  | cons x xs ih => exact proper_extend ih

/-- Numbers that are gathered into runs are covered by them, and no others. -/
theorem covered_runs (xs : List Nat) (y : Nat) :
    covered (xs.foldr extend []) y = xs.contains y := by
  induction xs with
  | nil => rfl
  | cons x xs ih =>
    rw [List.foldr_cons, covered_extend (proper_runs xs), ih, List.contains_cons, Bool.beq_comm]

theorem contains_ofList (xs : List Nat) (y : Nat) :
    (ofList xs).contains y = (xs.contains y && decide (y < limit)) := by
  rw [← covered_runs, ofList, contains_unionOf, covered, List.any_map]
  induction xs.foldr extend [] with
  | nil => simp
  | cons r runs ih =>
    rw [List.any_cons, List.any_cons, ih, Bool.and_or_distrib_right]
    congr 1
    exact contains_between r.1 r.2 y

end Lows

end InvertedIndex.Postings
