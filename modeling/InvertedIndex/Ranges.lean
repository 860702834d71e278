namespace InvertedIndex

/-- The numbers from `lo` to `hi`, both included. -/
structure Span where
  lo : Nat
  hi : Nat
  deriving DecidableEq, Repr

namespace Span

def single (x : Nat) : Span := ⟨x, x⟩

/-- The span between two ends given in either order. -/
def between (x y : Nat) : Span := ⟨min x y, max x y⟩

def contains (r : Span) (x : Nat) : Bool := r.lo ≤ x && x ≤ r.hi

def inter? (r s : Span) : Option Span :=
  let lo := max r.lo s.lo
  let hi := min r.hi s.hi
  if lo ≤ hi then some ⟨lo, hi⟩ else none

def size (r : Span) : Nat := r.hi - r.lo + 1

end Span

/-- The numbers from `0` to `last` that exist, with the steps between neighbours. -/
structure Alphabet where
  last : Nat
  next : Nat → Nat
  prev : Nat → Nat

namespace Alphabet

def bytes : Alphabet := ⟨0xFF, (· + 1), (· - 1)⟩

def scalars : Alphabet where
  last := 0x10FFFF
  next x := if x = 0xD7FF then 0xE000 else x + 1
  prev x := if x = 0xE000 then 0xD7FF else x - 1

end Alphabet

/-- Finite unions of closed ranges, kept in ascending order with gaps between them. -/
abbrev Ranges := List Span

namespace Ranges

def contains (rs : Ranges) (x : Nat) : Bool := rs.any (·.contains x)

def single (x : Nat) : Ranges := [.single x]

def size (rs : Ranges) : Nat := rs.foldr (fun r n => r.size + n) 0

/-- Joins spans that overlap or touch, in a list ordered by lower end. -/
def joinFrom (r : Span) : Ranges → Ranges
  | [] => [r]
  | s :: rest =>
    if s.lo ≤ r.hi + 1 then joinFrom ⟨r.lo, max r.hi s.hi⟩ rest else r :: joinFrom s rest

def join : Ranges → Ranges
  | [] => []
  | r :: rest => joinFrom r rest

def normalize (rs : Ranges) : Ranges := join (rs.mergeSort fun r s => r.lo ≤ s.lo)

def union (rs ss : Ranges) : Ranges := normalize (rs ++ ss)

def inter (rs ss : Ranges) : Ranges := rs.flatMap fun r => ss.filterMap r.inter?

/-- What is left of `r` without `s`. -/
def cut (a : Alphabet) (r s : Span) : Ranges :=
  if r.hi < s.lo ∨ s.hi < r.lo then [r]
  else
    (if r.lo < s.lo then [⟨r.lo, a.prev s.lo⟩] else []) ++
      (if s.hi < r.hi then [⟨a.next s.hi, r.hi⟩] else [])

def diff (a : Alphabet) (rs ss : Ranges) : Ranges :=
  ss.foldl (fun acc s => acc.flatMap (cut a · s)) rs

def symmDiff (a : Alphabet) (rs ss : Ranges) : Ranges :=
  diff a (union rs ss) (inter rs ss)

/-- The gaps above `hi`: one before each span of the list and one behind the last. -/
def gapsAbove (a : Alphabet) (hi : Nat) : Ranges → Ranges
  | [] => if hi < a.last then [.between (a.next hi) a.last] else []
  | s :: rest => .between (a.next hi) (a.prev s.lo) :: gapsAbove a s.hi rest

def complement (a : Alphabet) : Ranges → Ranges
  | [] => [⟨0, a.last⟩]
  | r :: rest => (if 0 < r.lo then [.between 0 (a.prev r.lo)] else []) ++ gapsAbove a r.hi rest

/-- Reads alternating run lengths, in hexadecimal and with blanks or line ends between them: how many
numbers are left out, how many belong to the set, and so on. -/
def ofRuns (text : String) : Ranges :=
  let step := fun ((at_, inside, acc) : Nat × Bool × List Span) (n : Nat) =>
    (at_ + n, !inside, if inside then ⟨at_, at_ + n - 1⟩ :: acc else acc)
  ((numbers text).foldl step (0, false, [])).2.2.reverse
where
  digit (c : Char) : Nat := if c.isDigit then c.toNat - 48 else c.toNat - 87
  numbers (text : String) : List Nat :=
    let step := fun ((open_, acc) : Option Nat × List Nat) (c : Char) =>
      if c.isWhitespace then (none, open_.elim acc (· :: acc))
      else (some (open_.getD 0 * 16 + digit c), acc)
    let (open_, acc) := text.toList.foldl step (none, [])
    (open_.elim acc (· :: acc)).reverse

@[simp] theorem contains_nil (x : Nat) : contains [] x = false := rfl

@[simp] theorem contains_cons (r : Span) (rs : Ranges) (x : Nat) :
    contains (r :: rs) x = (r.contains x || contains rs x) := rfl

theorem contains_append (rs ss : Ranges) (x : Nat) :
    contains (rs ++ ss) x = (contains rs x || contains ss x) := by
  simp [contains, List.any_append]

theorem contains_joinFrom (r : Span) (rs : Ranges) (x : Nat) (hr : r.lo ≤ r.hi)
    (hs : ∀ s ∈ rs, r.lo ≤ s.lo ∧ s.lo ≤ s.hi) (hp : rs.Pairwise fun s t => s.lo ≤ t.lo) :
    contains (joinFrom r rs) x = (r.contains x || contains rs x) := by
  induction rs generalizing r with
  | nil => simp [joinFrom]
  | cons s rest ih =>
    obtain ⟨hsrest, hp'⟩ := List.pairwise_cons.mp hp
    have hs0 := hs s (by simp)
    have hmem : ∀ t ∈ rest, t.lo ≤ t.hi := fun t ht => (hs t (by simp [ht])).2
    by_cases h : s.lo ≤ r.hi + 1
    · have hrlo : ∀ t ∈ rest, r.lo ≤ t.lo := fun t ht => (hs t (by simp [ht])).1
      rw [joinFrom, if_pos h, ih ⟨r.lo, max r.hi s.hi⟩ (by dsimp; omega)
        (fun t ht => ⟨hrlo t ht, hmem t ht⟩) hp', contains_cons, ← Bool.or_assoc]
      congr 1
      rw [Bool.eq_iff_iff]
      simp only [Span.contains, Bool.or_eq_true, Bool.and_eq_true, decide_eq_true_eq]
      omega
    · rw [joinFrom, if_neg h, contains_cons,
        ih s hs0.2 (fun t ht => ⟨hsrest t ht, hmem t ht⟩) hp', contains_cons]

end Ranges

end InvertedIndex
