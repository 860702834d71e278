import InvertedIndex.Ranges
import InvertedIndex.Utf8

namespace InvertedIndex.Utf8

/-- The last values whose encodings have one, two and three bytes. -/
def lastOfWidth : List Nat := [0x7F, 0x7FF, 0xFFFF]

/-- Where a span has to be cut so that it contains no surrogates and its members have encodings of
one width, with equal leading bytes or trailing bytes that run through all values: the last value of
the first part and the first value of the second. -/
def cut? (r : Span) : Option (Nat × Nat) :=
  if r.lo ≤ 0xD7FF ∧ 0xE000 ≤ r.hi then some (0xD7FF, 0xE000)
  else
    match lastOfWidth.find? fun last => r.lo ≤ last && last < r.hi with
    | some last => some (last, last + 1)
    | none =>
      if r.hi ≤ 0x7F then none
      else
        [64, 64 * 64, 64 * 64 * 64].findSome? fun block =>
          if r.lo / block = r.hi / block then none
          else if r.lo % block ≠ 0 then
            let next := (r.lo / block + 1) * block
            some (next - 1, next)
          else if r.hi % block ≠ block - 1 then
            let start := r.hi / block * block
            some (start - 1, start)
          else none

/-- Cuts a span until nothing is left to cut. -/
def sequencesFrom : Nat → Span → List (List (UInt8 × UInt8))
  | 0, _ => []
  | fuel + 1, r =>
    if r.hi < r.lo then []
    else
      match cut? r with
      | some (last, first) => sequencesFrom fuel ⟨r.lo, last⟩ ++ sequencesFrom fuel ⟨first, r.hi⟩
      | none => [(encode [.ofNat r.lo]).zip (encode [.ofNat r.hi])]

/-- The encodings of a span of scalar values: a string of bytes encodes a member when each byte lies in
the range at its place in one of the sequences. -/
def sequences (r : Span) : List (List (UInt8 × UInt8)) := sequencesFrom 16 r

end InvertedIndex.Utf8
