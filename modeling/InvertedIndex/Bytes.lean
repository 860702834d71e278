namespace InvertedIndex

abbrev Bytes := List UInt8

namespace Bytes

/-- The least number that takes more than `n` bytes. -/
def limit : Nat → Nat
  | 0 => 1
  | n + 1 => 256 * limit n

/-- The low `n` bytes of `x`, least significant first. -/
def ofLE : Nat → Nat → Bytes
  | 0, _ => []
  | n + 1, x => UInt8.ofNat x :: ofLE n (x / 256)

/-- The low `n` bytes of `x`, most significant first. -/
def ofBE (n x : Nat) : Bytes := (ofLE n x).reverse

/-- The number that a word stands for, its least significant byte first. -/
def toLE : Bytes → Nat
  | [] => 0
  | b :: bs => b.toNat + 256 * toLE bs

def toBE (bs : Bytes) : Nat := toLE bs.reverse

/-- Up to `n` bytes from place `start` on. -/
def slice (bs : Bytes) (start n : Nat) : Bytes := (bs.drop start).take n

/-- The first `n` bytes and the rest, if there are that many. -/
def split? : Nat → Bytes → Option (Bytes × Bytes)
  | 0, bs => some ([], bs)
  | _ + 1, [] => none
  | n + 1, b :: bs => (split? n bs).map fun (front, rest) => (b :: front, rest)

/-- A little-endian word of `n` bytes and the rest. -/
def word? (n : Nat) (bs : Bytes) : Option (Nat × Bytes) :=
  (bs.split? n).map fun (w, rest) => (w.toLE, rest)

/-- So many words of `width` bytes and the rest. -/
def words? (width : Nat) : Nat → Bytes → Option (List Nat × Bytes)
  | 0, bs => some ([], bs)
  | n + 1, bs =>
    match word? width bs with
    | none => none
    | some (x, bs) => (words? width n bs).map fun (xs, rest) => (x :: xs, rest)

def ofText (s : String) : Bytes := s.toList.flatMap String.utf8EncodeChar

@[simp] theorem length_ofLE (n x : Nat) : (ofLE n x).length = n := by
  induction n generalizing x with
  | zero => rfl
  | succ n ih => simp [ofLE, ih]

@[simp] theorem length_ofBE (n x : Nat) : (ofBE n x).length = n := by
  simp [ofBE]

@[simp] theorem limit_four : limit 4 = UInt32.size := rfl

@[simp] theorem limit_eight : limit 8 = UInt64.size := rfl

/-- What does not fit a word is cut off. -/
theorem toLE_ofLE (n x : Nat) : (ofLE n x).toLE = x % limit n := by
  induction n generalizing x with
  | zero => simp [ofLE, toLE, limit, Nat.mod_one]
  | succ n ih =>
    have hb : (UInt8.ofNat x).toNat = x % 256 := by simp
    rw [ofLE, toLE, ih, hb, limit, Nat.mod_mul]

theorem toLE_ofLE_of_lt {n x : Nat} (h : x < limit n) : (ofLE n x).toLE = x := by
  rw [toLE_ofLE, Nat.mod_eq_of_lt h]

theorem toBE_ofBE_of_lt {n x : Nat} (h : x < limit n) : (ofBE n x).toBE = x := by
  simp [ofBE, toBE, toLE_ofLE_of_lt h]

theorem split?_eq (n : Nat) (bs : Bytes) :
    split? n bs = if n ≤ bs.length then some (bs.take n, bs.drop n) else none := by
  induction n generalizing bs with
  | zero => simp [split?]
  | succ n ih =>
    cases bs with
    | nil => simp [split?]
    | cons b bs =>
      rw [split?, ih]
      by_cases h : n ≤ bs.length <;> simp [h]

theorem split?_append (xs ys : Bytes) : split? xs.length (xs ++ ys) = some (xs, ys) := by
  simp [split?_eq]

theorem word?_ofLE_append {n x : Nat} (h : x < limit n) (rest : Bytes) :
    word? n (ofLE n x ++ rest) = some (x, rest) := by
  have hs := split?_append (ofLE n x) rest
  rw [length_ofLE] at hs
  simp [word?, hs, toLE_ofLE_of_lt h]

end Bytes

end InvertedIndex
