import InvertedIndex.Bytes

namespace InvertedIndex.Checksum

def polynomial : UInt32 := 0xEDB88320

def shift (r : UInt32) : UInt32 :=
  if r &&& 1 = 1 then (r >>> 1) ^^^ polynomial else r >>> 1

def update (r : UInt32) (b : UInt8) : UInt32 :=
  Nat.repeat shift 8 (r ^^^ b.toUInt32)

def register (r : UInt32) (bs : Bytes) : UInt32 := bs.foldl update r

/-- The IEEE CRC-32 of a byte string: the remainder register runs least significant bit first, starts
with all bits set and is inverted at the end. -/
def crc32 (bs : Bytes) : UInt32 := register 0xFFFFFFFF bs ^^^ 0xFFFFFFFF

@[simp] theorem register_nil (r : UInt32) : register r [] = r := rfl

theorem register_append (r : UInt32) (xs ys : Bytes) :
    register r (xs ++ ys) = register (register r xs) ys := by
  simp [register]

end InvertedIndex.Checksum
