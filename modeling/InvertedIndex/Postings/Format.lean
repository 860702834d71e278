import InvertedIndex.Error
import InvertedIndex.Postings
import InvertedIndex.Postings.Block.Format

namespace InvertedIndex.Postings

/-- Opens a list without runs. -/
def plainCookie : Nat := 12346

/-- The lower half of the word that opens a list with runs; the upper half tells how many
blocks there are, less one. -/
def runCookie : Nat := 12347

/-- Lists with runs say where bodies start from this number of blocks on. -/
def offsetThreshold : Nat := 4

def maxBlocks : Nat := 65536

/-- Where parts of the given sizes start. -/
def starts (first : Nat) : List Nat → List Nat
  | [] => []
  | size :: sizes => first :: starts (first + size) sizes

/-- The key of a block and the number of its members, less one. -/
def descriptor (b : Block) : Bytes :=
  Bytes.ofLE 2 b.key ++ Bytes.ofLE 2 (b.size + 0xFFFF)

/-- A cookie and the number of blocks, then key and size of each block, where each body starts, and the
bodies. What is written never has runs; they can be read. -/
def encode (p : Postings) : Bytes :=
  Bytes.ofLE 4 plainCookie ++ Bytes.ofLE 4 p.blocks.length ++ p.blocks.flatMap descriptor
    ++ (starts (8 + 8 * p.blocks.length) (p.blocks.map Block.bodySize)).flatMap (Bytes.ofLE 4)
    ++ p.blocks.flatMap Block.body

def encodedSize (p : Postings) : Nat := p.blocks.foldr (fun b n => 8 + b.bodySize + n) 8

/-- How a list begins: the number of blocks, which of them are runs, and whether it says where
bodies start. -/
structure Header where
  size : Nat
  isRuns : List Bool
  hasStarts : Bool

def bits (bs : Bytes) : List Bool :=
  bs.flatMap fun b => (List.range 8).map b.toNat.testBit

def header? (bs : Bytes) : Option (Header × Bytes) := do
  let (cookie, bs) ← bs.word? 4
  if cookie = plainCookie then
    let (size, bs) ← bs.word? 4
    some (⟨size, [], true⟩, bs)
  else if cookie % 65536 = runCookie then
    let size := cookie / 65536 + 1
    let (flags, bs) ← bs.split? ((size + 7) / 8)
    some (⟨size, bits flags, offsetThreshold ≤ size⟩, bs)
  else none

/-- Reads the blocks whose keys and numbers of members, less one, are given. -/
def readBlocks? : List Nat → List Bool → Bytes → Option (List Block × Bytes)
  | key :: less :: rest, isRuns, bs =>
    match Block.read? (isRuns.headD false) key (less + 1) bs with
    | none => none
    | some (b, bs) => (readBlocks? rest isRuns.tail bs).map fun (blocks, bs) => (b :: blocks, bs)
  | _, _, bs => some ([], bs)

def decode? (bs : Bytes) : Option (Postings × Bytes) := do
  let (header, bs) ← header? bs
  if maxBlocks < header.size then none
  let (descriptors, bs) ← Bytes.words? 2 (2 * header.size) bs
  let (_, bs) ← if header.hasStarts then bs.split? (4 * header.size) else some ([], bs)
  let (blocks, bs) ← readBlocks? descriptors header.isRuns bs
  some (⟨blocks⟩, bs)

/-- Reads a list at the front of `bs`; what follows it does not matter. -/
def decode (bs : Bytes) : Except Error Postings :=
  match decode? bs with
  | some (p, _) => .ok p
  | none => .error (.format "invalid postings payload")

end InvertedIndex.Postings
