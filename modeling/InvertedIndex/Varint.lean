import InvertedIndex.Bytes

namespace InvertedIndex.Varint

inductive Fault where
  | truncated
  | overflow
  deriving DecidableEq, Repr

def Fault.reason : Fault → String
  | .truncated => "unexpected end of uvarint"
  | .overflow => "uvarint overflows u64"

/-- Seven bits a byte, least significant first, the top bit set on every byte but the last. -/
def encode (n : Nat) : Bytes :=
  if n < 128 then [UInt8.ofNat n] else UInt8.ofNat (n % 128 + 128) :: encode (n / 128)

/-- What a reader found and how many bytes it has consumed, also when it failed. -/
structure Reading where
  value : Except Fault Nat
  used : Nat

/-- Reads the rest of a number of which `i` bytes are behind. -/
def readFrom (i : Nat) : Bytes → Reading
  | [] => ⟨.error .truncated, i⟩
  | b :: bs =>
    if i = 9 ∧ 1 < b.toNat then ⟨.error .overflow, i + 1⟩
    else if b.toNat < 128 then ⟨.ok b.toNat, i + 1⟩
    else
      let ⟨value, used⟩ := readFrom (i + 1) bs
      ⟨value.map fun n => b.toNat % 128 + 128 * n, used⟩

def read (bs : Bytes) : Reading := readFrom 0 bs

/-- The number at the front of `bs` and the bytes behind it. -/
def decode (bs : Bytes) : Except Fault (Nat × Bytes) :=
  match read bs with
  | ⟨.ok n, used⟩ => .ok (n, bs.drop used)
  | ⟨.error e, _⟩ => .error e

theorem encode_of_lt {n : Nat} (h : n < 128) : encode n = [UInt8.ofNat n] := by
  rw [encode, if_pos h]

theorem encode_of_le {n : Nat} (h : 128 ≤ n) :
    encode n = UInt8.ofNat (n % 128 + 128) :: encode (n / 128) := by
  rw [encode, if_neg (by omega)]

end InvertedIndex.Varint
