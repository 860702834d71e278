import InvertedIndex.Dictionary
import InvertedIndex.Wire

namespace InvertedIndex.Segment

/-- How a segment that takes in documents is set up. -/
structure Options where
  /-- How many documents there is room for at first. -/
  capacity : UInt64
  offset : PostingsId
  strategy : Strategy
  deriving DecidableEq

namespace Options

def default : Options := ⟨1024, 0, .exact⟩

def strategyIndex : Strategy → UInt32
  | .exact => 0
  | .trigram => 1

def strategyOf? (index : UInt32) : Option Strategy :=
  if index = 0 then some .exact else if index = 1 then some .trigram else none

def encode (o : Options) : Bytes :=
  Wire.word64 o.capacity ++ Wire.word32 o.offset ++ Wire.word32 (strategyIndex o.strategy)

def decode? (bs : Bytes) : Option Options := do
  let (capacity, bs) ← Wire.word64? bs
  let (offset, bs) ← Wire.word32? bs
  let (index, _) ← Wire.word32? bs
  let strategy ← strategyOf? index
  some ⟨capacity, offset, strategy⟩

def debugText (o : Options) : String :=
  "SegmentOptions \x7b initial_capacity: " ++ toString o.capacity.toNat ++ ", postings_offset: "
    ++ PostingsId.debugText o.offset ++ ", terms_strategy: " ++ o.strategy.name ++ ", .. \x7d"

/-- What is shown of the base of a segment that is built. -/
def baseText (base : PostingsId) : String :=
  "BuilderOptions \x7b base_postings_id: " ++ PostingsId.debugText base ++ " \x7d"

theorem decode?_encode (o : Options) : decode? o.encode = some o := by
  have hlast (x : UInt32) : Wire.word32? (Wire.word32 x) = some (x, []) := by
    simpa using Wire.word32?_append x []
  obtain ⟨capacity, offset, strategy⟩ := o
  cases strategy <;>
    simp [encode, decode?, Wire.word64?_append, Wire.word32?_append, hlast, strategyIndex,
      strategyOf?]

end Options

end InvertedIndex.Segment
