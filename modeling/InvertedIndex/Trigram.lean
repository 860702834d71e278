import InvertedIndex.Bytes

namespace InvertedIndex

/-- A window of three bytes. -/
structure Trigram where
  first : UInt8
  second : UInt8
  third : UInt8
  deriving DecidableEq, Repr

namespace Trigram

def toBytes (t : Trigram) : Bytes := [t.first, t.second, t.third]

/-- The windows of a byte string from left to right, as often as they occur. -/
def windows : Bytes → List Trigram
  | a :: b :: c :: rest => ⟨a, b, c⟩ :: windows (b :: c :: rest)
  | _ => []

end Trigram

end InvertedIndex
