import InvertedIndex.Postings

namespace InvertedIndex.Postings

namespace Block

/-- How many of the numbers from `lo` up to and without `hi` are members. -/
def countBetween (b : Block) (lo hi : Nat) : Nat := (b.lows.inter (.between lo hi)).size

/-- How many of them are not. -/
def missingBetween (b : Block) (lo hi : Nat) : Nat :=
  (Lows.between lo hi).size - b.countBetween lo hi

end Block

/-- How many of the numbers between two bounds the block of a key does not have. -/
def missingAt (p : Postings) (lo hi key : Nat) : Nat :=
  ((p.find? key).getD (.empty key)).missingBetween (lo - 0x10000 * key) (hi - 0x10000 * key)

/-- How many numbers `insertBetween` adds. -/
def addedBetween (p : Postings) (lo hi : Nat) : Nat :=
  let first := lo / 0x10000
  let last := (hi - 1) / 0x10000
  if hi ≤ lo then 0
  else (List.range' first (last - first + 1)).foldr (fun key n => p.missingAt lo hi key + n) 0

/-- How many of the numbers between two bounds a block with a key between theirs has. -/
def presentIn (lo hi : Nat) (b : Block) : Nat :=
  if lo / 0x10000 ≤ b.key ∧ b.key ≤ (hi - 1) / 0x10000 then
    b.countBetween (lo - 0x10000 * b.key) (hi - 0x10000 * b.key)
  else 0

/-- How many numbers `removeBetween` drops. -/
def droppedBetween (p : Postings) (lo hi : Nat) : Nat :=
  if hi ≤ lo then 0 else p.blocks.foldr (fun b n => presentIn lo hi b + n) 0

/-- Answers whether the number is new. -/
def insertTelling (p : Postings) (id : PostingsId) : Postings × Bool :=
  (p.insert id, !p.contains id)

/-- Answers whether the number was there. -/
def removeTelling (p : Postings) (id : PostingsId) : Postings × Bool :=
  (p.remove id, p.contains id)

/-- Answers how many numbers are new. -/
def insertRangeTelling (p : Postings) (lo hi : PostingsId) : Postings × Nat :=
  (p.insertRange lo hi, p.addedBetween lo.toNat hi.toNat)

/-- Answers how many numbers were there. -/
def removeRangeTelling (p : Postings) (lo hi : PostingsId) : Postings × Nat :=
  (p.removeRange lo hi, p.droppedBetween lo.toNat hi.toNat)

/-- Answers how many numbers were there. -/
def truncateTelling (p : Postings) (min : PostingsId) : Postings × Nat :=
  (p.truncate min, p.droppedBetween min.toNat UInt32.size)

end InvertedIndex.Postings
