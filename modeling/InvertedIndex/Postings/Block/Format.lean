import InvertedIndex.Bytes
import InvertedIndex.Postings.Block

namespace InvertedIndex.Postings.Block

def bitmapSize : Nat := 8192

/-- The members below `start + 8` as the bits of a byte. -/
def bitmapByte (start : Nat) (lows : List Nat) : UInt8 :=
  lows.foldl (fun b low => b ||| (1 <<< UInt8.ofNat (low - start))) 0

/-- So many bytes, the first of which holds the members from `start` on. -/
def bitmapFrom : Nat → Nat → List Nat → Bytes
  | 0, _, _ => []
  | n + 1, start, lows =>
    let (here, rest) := lows.span (· < start + 8)
    bitmapByte start here :: bitmapFrom n (start + 8) rest

def bitmap (lows : List Nat) : Bytes := bitmapFrom bitmapSize 0 lows

def array (lows : List Nat) : Bytes := lows.flatMap (Bytes.ofLE 2)

def body (b : Block) : Bytes :=
  match b.form with
  | .array => array b.lows.toList
  | .bitmap => bitmap b.lows.toList

def bodySize (b : Block) : Nat :=
  match b.form with
  | .array => 2 * b.size
  | .bitmap => bitmapSize

def byteMembers (b : UInt8) (i : Nat) : List Nat :=
  (List.range 8).filterMap fun j => if b.toNat.testBit j then some (8 * i + j) else none

def bitmapMembers (bs : Bytes) : List Nat := bs.zipIdx.flatMap fun (b, i) => byteMembers b i

def isAscending : List Nat → Bool
  | x :: y :: rest => x < y && isAscending (y :: rest)
  | _ => true

def readArray? (key card : Nat) (bs : Bytes) : Option (Block × Bytes) :=
  match Bytes.words? 2 card bs with
  | none => none
  | some (lows, rest) => if isAscending lows then some (⟨key, .array, .ofList lows⟩, rest) else none

def readBitmap? (key card : Nat) (bs : Bytes) : Option (Block × Bytes) :=
  match bs.split? bitmapSize with
  | none => none
  | some (bits, rest) =>
    let lows := bitmapMembers bits
    if lows.length = card then some (⟨key, .bitmap, .ofList lows⟩, rest) else none

/-- Pairs of a first member and the number of members behind it, in any order. -/
def runs? : List Nat → Option (List Lows)
  | start :: more :: rest =>
    if 0xFFFF < start + more then none
    else (runs? rest).map (.between start (start + more + 1) :: ·)
  | _ => some []

/-- The numbers of members behind the first ones, all together. -/
def lengthOfRuns : List Nat → Nat
  | _ :: more :: rest => more + lengthOfRuns rest
  | _ => 0

/-- Runs that start with few members behind them make an array, and others bits. -/
def readRuns? (key : Nat) (bs : Bytes) : Option (Block × Bytes) :=
  match bs.word? 2 with
  | none => none
  | some (count, bs) =>
    match Bytes.words? 2 (2 * count) bs with
    | none => none
    | some (ends, rest) =>
      (runs? ends).map fun runs => (⟨key, .ofSize (lengthOfRuns ends), .unionOf runs⟩, rest)

/-- Reads a body of the form that the number of members asks for, or of runs. -/
def read? (isRuns : Bool) (key card : Nat) (bs : Bytes) : Option (Block × Bytes) :=
  if isRuns then readRuns? key bs
  else
    match Form.ofSize card with
    | .array => readArray? key card bs
    | .bitmap => readBitmap? key card bs

end InvertedIndex.Postings.Block
