import InvertedIndex.Postings.Lows

namespace InvertedIndex.Postings

/-- How the members of a block are written: one after the other, or as bits. -/
inductive Form where
  | array
  | bitmap
  deriving DecidableEq, Repr

namespace Form

/-- The most members that are written one after the other. -/
def arrayLimit : Nat := 4096

def ofSize (n : Nat) : Form := if n ≤ arrayLimit then .array else .bitmap

end Form

/-- Postings that agree in their upper 16 bits. The number of members decides which form an operation
gives a block; one that was read may have the other form, or no members at all, until an operation
changes it. -/
structure Block where
  key : Nat
  form : Form
  lows : Lows
  deriving DecidableEq

namespace Block

def empty (key : Nat) : Block := ⟨key, .array, ∅⟩

/-- The block in the form that its size asks for. -/
def ofLows (key : Nat) (lows : Lows) : Block := ⟨key, .ofSize lows.size, lows⟩

def size (b : Block) : Nat := b.lows.size

def isEmpty (b : Block) : Bool := b.lows.isEmpty

def contains (b : Block) (x : Nat) : Bool := b.lows.contains x

/-- A block without members is no block. -/
def nonempty? (b : Block) : Option Block := if b.isEmpty then none else some b

/-- A member that is there already changes nothing, not even the form. -/
def insert (b : Block) (x : Nat) : Block :=
  if b.contains x then b else ofLows b.key (b.lows.union (.single x))

def insertRange (b : Block) (lo hi : Nat) : Block := ofLows b.key (b.lows.union (.between lo hi))

def remove? (b : Block) (x : Nat) : Option Block :=
  if b.contains x then (ofLows b.key (b.lows.diff (.single x))).nonempty? else some b

def removeRange? (b : Block) (lo hi : Nat) : Option Block :=
  (ofLows b.key (b.lows.diff (.between lo hi))).nonempty?

def union (b c : Block) : Block := ofLows b.key (b.lows.union c.lows)

def inter? (b c : Block) : Option Block := (ofLows b.key (b.lows.inter c.lows)).nonempty?

def diff? (b c : Block) : Option Block := (ofLows b.key (b.lows.diff c.lows)).nonempty?

@[simp] theorem key_ofLows (key : Nat) (lows : Lows) : (ofLows key lows).key = key := rfl

@[simp] theorem contains_ofLows (key : Nat) (lows : Lows) (x : Nat) :
    (ofLows key lows).contains x = lows.contains x := rfl

@[simp] theorem contains_empty (key x : Nat) : (empty key).contains x = false := rfl

theorem key_of_nonempty? {b c : Block} (h : b.nonempty? = some c) : c.key = b.key := by
  unfold nonempty? at h
  split at h
  · cases h
  · rw [Option.some.inj h]

theorem any_nonempty? (b : Block) (x : Nat) : b.nonempty?.any (·.contains x) = b.contains x := by
  unfold nonempty?
  split
  · next h => simp [contains, Lows.isEmpty_iff.mp h]
  · rfl

@[simp] theorem key_insert (b : Block) (x : Nat) : (b.insert x).key = b.key := by
  unfold insert
  split <;> rfl

theorem contains_insert (b : Block) {x : Nat} (hx : x < Lows.limit) (y : Nat) :
    (b.insert x).contains y = (x == y || b.contains y) := by
  unfold insert
  split
  · next h =>
    by_cases hxy : x = y
    · simp [← hxy, h]
    · simp [hxy]
  · rw [contains_ofLows, Lows.contains_union, Lows.contains_single, contains]
    by_cases hxy : x = y
    · subst hxy
      simp [hx]
    · simp [beq_eq_false_iff_ne.mpr hxy]

theorem contains_insertRange (b : Block) (lo hi y : Nat) :
    (b.insertRange lo hi).contains y =
      (b.contains y || (decide (lo ≤ y) && decide (y < hi) && decide (y < Lows.limit))) := by
  rw [insertRange, contains_ofLows, Lows.contains_union, Lows.contains_between, contains]

/-- Removing leaves all members but one. -/
theorem any_remove? (b : Block) (x y : Nat) :
    (b.remove? x).any (·.contains y) = (b.contains y && !(x == y)) := by
  unfold remove?
  split
  · rw [any_nonempty?, contains_ofLows, Lows.contains_diff, contains]
    cases h : b.lows.contains y
    · simp
    · simp [Lows.lt_limit_of_contains h]
  · next h =>
    by_cases hxy : x = y
    · simp [← hxy, h]
    · simp [hxy]

/-- Removing a range leaves the members outside. -/
theorem any_removeRange? (b : Block) (lo hi y : Nat) :
    (b.removeRange? lo hi).any (·.contains y) =
      (b.contains y && !(decide (lo ≤ y) && decide (y < hi))) := by
  rw [removeRange?, any_nonempty?, contains_ofLows, Lows.contains_diff, Lows.contains_between,
    contains]
  cases h : b.lows.contains y
  · rfl
  · simp [Lows.lt_limit_of_contains h]

theorem key_of_ofLows {key : Nat} {lows : Lows} {c : Block}
    (h : (ofLows key lows).nonempty? = some c) : c.key = key := key_of_nonempty? h

theorem key_of_remove? {b c : Block} {x : Nat} (h : b.remove? x = some c) : c.key = b.key := by
  unfold remove? at h
  split at h
  · exact key_of_ofLows h
  · rw [Option.some.inj h]

theorem key_of_removeRange? {b c : Block} {lo hi : Nat} (h : b.removeRange? lo hi = some c) :
    c.key = b.key := key_of_ofLows h

theorem key_of_inter? {b c d : Block} (h : b.inter? c = some d) : d.key = b.key := key_of_ofLows h

theorem key_of_diff? {b c d : Block} (h : b.diff? c = some d) : d.key = b.key := key_of_ofLows h

@[simp] theorem key_insertRange (b : Block) (lo hi : Nat) : (b.insertRange lo hi).key = b.key := rfl

@[simp] theorem key_union (b c : Block) : (b.union c).key = b.key := rfl

theorem contains_union (b c : Block) (y : Nat) :
    (b.union c).contains y = (b.contains y || c.contains y) := Lows.contains_union _ _ y

theorem any_inter? (b c : Block) (y : Nat) :
    (b.inter? c).any (·.contains y) = (b.contains y && c.contains y) := by
  rw [inter?, any_nonempty?, contains_ofLows, Lows.contains_inter, contains, contains]

theorem any_diff? (b c : Block) (y : Nat) :
    (b.diff? c).any (·.contains y) = (b.contains y && !c.contains y) := by
  rw [diff?, any_nonempty?, contains_ofLows, Lows.contains_diff, contains, contains]

end Block

end InvertedIndex.Postings
