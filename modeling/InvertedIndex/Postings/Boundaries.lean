namespace InvertedIndex.Boundaries

/-- Sets of numbers are given by their boundaries, the places at which membership changes: `inside on bs
x` tells whether `x` is a member if the numbers before the first boundary are members just when `on`. -/
def inside (on : Bool) : List Nat → Nat → Bool
  | [], _ => on
  | b :: bs, x => if x < b then on else inside (!on) bs x

/-- Membership behind the last boundary. -/
def atEnd (on : Bool) : List Nat → Bool
  | [] => on
  | _ :: bs => atEnd (!on) bs

def Ascending (bs : List Nat) : Prop := bs.Pairwise (· < ·)

/-- A boundary is kept where membership changes. -/
def mark (before after : Bool) (x : Nat) (rest : List Nat) : List Nat :=
  if before = after then rest else x :: rest

/-- Combines two sets by a function of the two memberships. -/
def sweep (f : Bool → Bool → Bool) (a b : Bool) : List Nat → List Nat → List Nat
  | [], [] => []
  | x :: xs, [] => mark (f a b) (f (!a) b) x (sweep f (!a) b xs [])
  | [], y :: ys => mark (f a b) (f a (!b)) y (sweep f a (!b) [] ys)
  | x :: xs, y :: ys =>
    if x < y then mark (f a b) (f (!a) b) x (sweep f (!a) b xs (y :: ys))
    else if y < x then mark (f a b) (f a (!b)) y (sweep f a (!b) (x :: xs) ys)
    else mark (f a b) (f (!a) (!b)) x (sweep f (!a) (!b) xs ys)
termination_by xs ys => xs.length + ys.length

/-- The boundaries in pairs: the first member of a run and the first number behind it. -/
def runs : List Nat → List (Nat × Nat)
  | lo :: hi :: rest => (lo, hi) :: runs rest
  | _ => []

def count : List Nat → Nat
  | lo :: hi :: rest => hi - lo + count rest
  | _ => 0

def members (bs : List Nat) : List Nat := (runs bs).flatMap fun (lo, hi) => List.range' lo (hi - lo)

@[simp] theorem inside_nil (on : Bool) (x : Nat) : inside on [] x = on := rfl

theorem inside_cons (on : Bool) (b : Nat) (bs : List Nat) (x : Nat) :
    inside on (b :: bs) x = if x < b then on else inside (!on) bs x := rfl

@[simp] theorem atEnd_nil (on : Bool) : atEnd on [] = on := rfl

@[simp] theorem atEnd_cons (on : Bool) (b : Nat) (bs : List Nat) :
    atEnd on (b :: bs) = atEnd (!on) bs := rfl

theorem inside_of_lt {on : Bool} {bs : List Nat} {x : Nat} (h : ∀ b ∈ bs, x < b) :
    inside on bs x = on := by
  cases bs with
  | nil => rfl
  | cons b bs => rw [inside_cons, if_pos (h b (by simp))]

theorem atEnd_mark (before after : Bool) (x : Nat) (rest : List Nat) :
    atEnd before (mark before after x rest) = atEnd after rest := by
  unfold mark
  split
  · next h => rw [h]
  · next h =>
    have hn : (!before) = after := by cases before <;> cases after <;> simp_all
    rw [atEnd_cons, hn]

theorem mem_mark {before after : Bool} {x y : Nat} {rest : List Nat}
    (h : y ∈ mark before after x rest) : y = x ∨ y ∈ rest := by
  unfold mark at h
  split at h
  · exact .inr h
  · exact List.mem_cons.mp h

/-- A mark changes membership from its place on. -/
theorem inside_mark {before after : Bool} {x z : Nat} {rest : List Nat}
    (hr : ∀ y ∈ rest, x < y) :
    inside before (mark before after x rest) z = if z < x then before else inside after rest z := by
  unfold mark
  split
  · next h =>
    split
    · next hz => exact inside_of_lt fun y hy => Nat.lt_trans hz (hr y hy)
    · rw [h]
  · next h =>
    have hn : (!before) = after := by cases before <;> cases after <;> simp_all
    rw [inside_cons, hn]

theorem ascending_mark {before after : Bool} {x : Nat} {rest : List Nat}
    (hr : ∀ y ∈ rest, x < y) (h : Ascending rest) : Ascending (mark before after x rest) := by
  unfold mark
  split
  · exact h
  · exact List.pairwise_cons.mpr ⟨hr, h⟩

theorem mem_sweep {f : Bool → Bool → Bool} {a b : Bool} {xs ys : List Nat} {z : Nat}
    (h : z ∈ sweep f a b xs ys) : z ∈ xs ∨ z ∈ ys := by
  fun_induction sweep f a b xs ys with
  | case1 => simp at h
  | case2 a b x xs ih => rcases mem_mark h with rfl | h <;> grind
  | case3 a b y ys ih => rcases mem_mark h with rfl | h <;> grind
  | case4 a b x xs y ys hlt ih => rcases mem_mark h with rfl | h <;> grind
  | case5 a b x xs y ys hlt hgt ih => rcases mem_mark h with rfl | h <;> grind
  | case6 a b x xs y ys hlt hgt ih => rcases mem_mark h with rfl | h <;> grind

theorem lt_of_mem_sweep {f : Bool → Bool → Bool} {a b : Bool} {xs ys : List Nat} {x z : Nat}
    (hx : ∀ y ∈ xs, x < y) (hy : ∀ y ∈ ys, x < y) (h : z ∈ sweep f a b xs ys) : x < z :=
  (mem_sweep h).elim (hx z) (hy z)

theorem atEnd_sweep (f : Bool → Bool → Bool) (a b : Bool) (xs ys : List Nat) :
    atEnd (f a b) (sweep f a b xs ys) = f (atEnd a xs) (atEnd b ys) := by
  fun_induction sweep f a b xs ys with
  | case1 => rfl
  | case2 a b x xs ih => rw [atEnd_mark, ih]; rfl
  | case3 a b y ys ih => rw [atEnd_mark, ih]; rfl
  | case4 a b x xs y ys hlt ih => rw [atEnd_mark, ih]; rfl
  | case5 a b x xs y ys hlt hgt ih => rw [atEnd_mark, ih]; rfl
  | case6 a b x xs y ys hlt hgt ih => rw [atEnd_mark, ih]; rfl

private theorem head_lt {x : Nat} {xs : List Nat} (h : Ascending (x :: xs)) : ∀ y ∈ xs, x < y :=
  (List.pairwise_cons.mp h).1

private theorem tail_ascending {x : Nat} {xs : List Nat} (h : Ascending (x :: xs)) :
    Ascending xs := (List.pairwise_cons.mp h).2

private theorem all_lt {x y : Nat} {ys : List Nat} (h : Ascending (y :: ys)) (hxy : x < y) :
    ∀ z ∈ y :: ys, x < z := by
  intro z hz
  rcases List.mem_cons.mp hz with rfl | hz
  · exact hxy
  · exact Nat.lt_trans hxy (head_lt h z hz)

/-- What comes out of a sweep has its boundaries in order again. -/
theorem ascending_sweep {f : Bool → Bool → Bool} {a b : Bool} {xs ys : List Nat}
    (hx : Ascending xs) (hy : Ascending ys) : Ascending (sweep f a b xs ys) := by
  fun_induction sweep f a b xs ys with
  | case1 => exact List.Pairwise.nil
  | case2 a b x xs ih =>
    exact ascending_mark (fun _ h => lt_of_mem_sweep (head_lt hx) (by simp) h)
      (ih (tail_ascending hx) hy)
  | case3 a b y ys ih =>
    exact ascending_mark (fun _ h => lt_of_mem_sweep (by simp) (head_lt hy) h)
      (ih hx (tail_ascending hy))
  | case4 a b x xs y ys hlt ih =>
    exact ascending_mark (fun _ h => lt_of_mem_sweep (head_lt hx) (all_lt hy hlt) h)
      (ih (tail_ascending hx) hy)
  | case5 a b x xs y ys hlt hgt ih =>
    exact ascending_mark (fun _ h => lt_of_mem_sweep (all_lt hx hgt) (head_lt hy) h)
      (ih hx (tail_ascending hy))
  | case6 a b x xs y ys hlt hgt ih =>
    obtain rfl : x = y := by omega
    exact ascending_mark (fun _ h => lt_of_mem_sweep (head_lt hx) (head_lt hy) h)
      (ih (tail_ascending hx) (tail_ascending hy))

/-- A number is in the combined set by what it is in the two sets. -/
theorem inside_sweep {f : Bool → Bool → Bool} {a b : Bool} {xs ys : List Nat}
    (hx : Ascending xs) (hy : Ascending ys) (z : Nat) :
    inside (f a b) (sweep f a b xs ys) z = f (inside a xs z) (inside b ys z) := by
  fun_induction sweep f a b xs ys with
  | case1 => rfl
  | case2 a b x xs ih =>
    rw [inside_mark fun _ h => lt_of_mem_sweep (head_lt hx) (by simp) h,
      ih (tail_ascending hx) hy, inside_cons]
    split <;> rfl
  | case3 a b y ys ih =>
    rw [inside_mark fun _ h => lt_of_mem_sweep (by simp) (head_lt hy) h,
      ih hx (tail_ascending hy), inside_cons]
    split <;> rfl
  | case4 a b x xs y ys hlt ih =>
    rw [inside_mark fun _ h => lt_of_mem_sweep (head_lt hx) (all_lt hy hlt) h,
      ih (tail_ascending hx) hy, inside_cons a x]
    split
    · next hz =>
      have hb : inside b (y :: ys) z = b :=
        inside_of_lt fun y' h => Nat.lt_trans hz (all_lt hy hlt y' h)
      rw [hb]
    · rfl
  | case5 a b x xs y ys hlt hgt ih =>
    rw [inside_mark fun _ h => lt_of_mem_sweep (all_lt hx hgt) (head_lt hy) h,
      ih hx (tail_ascending hy), inside_cons b y]
    split
    · next hz =>
      have ha : inside a (x :: xs) z = a :=
        inside_of_lt fun x' h => Nat.lt_trans hz (all_lt hx hgt x' h)
      rw [ha]
    · rfl
  | case6 a b x xs y ys hlt hgt ih =>
    obtain rfl : x = y := by omega
    rw [inside_mark fun _ h => lt_of_mem_sweep (head_lt hx) (head_lt hy) h,
      ih (tail_ascending hx) (tail_ascending hy), inside_cons, inside_cons]
    split <;> rfl

/-- A set has one list of boundaries. -/
theorem eq_of_inside_eq {on : Bool} {xs ys : List Nat} (hx : Ascending xs) (hy : Ascending ys)
    (h : ∀ z, inside on xs z = inside on ys z) : xs = ys := by
  induction xs generalizing on ys with
  | nil =>
    cases ys with
    | nil => rfl
    | cons y ys =>
      have hz := h y
      rw [inside_nil, inside_cons, if_neg (Nat.lt_irrefl y), inside_of_lt (head_lt hy)] at hz
      cases on <;> simp at hz
  | cons x xs ih =>
    cases ys with
    | nil =>
      have hz := h x
      rw [inside_nil, inside_cons, if_neg (Nat.lt_irrefl x), inside_of_lt (head_lt hx)] at hz
      cases on <;> simp at hz
    | cons y ys =>
      obtain rfl : x = y := by
        rcases Nat.lt_trichotomy x y with hlt | heq | hgt
        · have hz := h x
          rw [inside_of_lt (all_lt hy hlt), inside_cons, if_neg (Nat.lt_irrefl x),
            inside_of_lt (head_lt hx)] at hz
          cases on <;> simp at hz
        · exact heq
        · have hz := h y
          rw [inside_of_lt (all_lt hx hgt), inside_cons, if_neg (Nat.lt_irrefl y),
            inside_of_lt (head_lt hy)] at hz
          cases on <;> simp at hz
      rw [@ih (!on) ys (tail_ascending hx) (tail_ascending hy)]
      intro z
      have hz := h z
      rw [inside_cons, inside_cons] at hz
      split at hz
      · next hlt =>
        rw [inside_of_lt fun w hw => Nat.lt_trans hlt (head_lt hx w hw),
          inside_of_lt fun w hw => Nat.lt_trans hlt (head_lt hy w hw)]
      · exact hz

end InvertedIndex.Boundaries
