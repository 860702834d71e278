import InvertedIndex.Bytes

namespace InvertedIndex.Wire

def word32 (x : UInt32) : Bytes := Bytes.ofLE 4 x.toNat

def word64 (x : UInt64) : Bytes := Bytes.ofLE 8 x.toNat

def length (n : Nat) : Bytes := Bytes.ofLE 8 n

/-- Strings and lists stand behind their length. -/
def string (bs : Bytes) : Bytes := length bs.length ++ bs

def option (encode : α → Bytes) : Option α → Bytes
  | none => [0]
  | some a => 1 :: encode a

def list (encode : α → Bytes) (as : List α) : Bytes := length as.length ++ as.flatMap encode

def word32? (bs : Bytes) : Option (UInt32 × Bytes) :=
  (bs.word? 4).map fun (x, rest) => (.ofNat x, rest)

def word64? (bs : Bytes) : Option (UInt64 × Bytes) :=
  (bs.word? 8).map fun (x, rest) => (.ofNat x, rest)

def string? (bs : Bytes) : Option (Bytes × Bytes) :=
  match bs.word? 8 with
  | none => none
  | some (n, rest) => rest.split? n

theorem word32?_append (x : UInt32) (rest : Bytes) : word32? (word32 x ++ rest) = some (x, rest) := by
  rw [word32?, word32, Bytes.word?_ofLE_append x.toNat_lt_size]
  simp

theorem word64?_append (x : UInt64) (rest : Bytes) : word64? (word64 x ++ rest) = some (x, rest) := by
  rw [word64?, word64, Bytes.word?_ofLE_append x.toNat_lt_size]
  simp

theorem string?_append {bs : Bytes} (h : bs.length < UInt64.size) (rest : Bytes) :
    string? (string bs ++ rest) = some (bs, rest) := by
  rw [string?, string, List.append_assoc, length, Bytes.word?_ofLE_append h]
  exact Bytes.split?_append bs rest

end InvertedIndex.Wire
