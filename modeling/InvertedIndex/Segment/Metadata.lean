import InvertedIndex.Error
import InvertedIndex.Utf8
import InvertedIndex.Wire

namespace InvertedIndex.Segment

structure Checksums where
  docsData : UInt32
  docsIndex : UInt32
  postings : UInt32
  keys : UInt32
  deriving DecidableEq, Repr

/-- What a segment says about itself: versions, how its postings are written, how many documents it has,
and the checksums of its regions. -/
structure Metadata where
  major : UInt32
  minor : UInt32
  /-- The name of the form in which postings are written. -/
  postingsFormat : String
  numDocs : UInt64
  checksums : Checksums
  deriving DecidableEq, Repr

namespace Metadata

def majorVersion : UInt32 := 1

def minorVersion : UInt32 := 1

def roaringFormat : String := "roaring"

/-- The metadata of a segment of this version. -/
def new (numDocs : UInt64) (checksums : Checksums) : Metadata :=
  ⟨majorVersion, minorVersion, roaringFormat, numDocs, checksums⟩

def encode (m : Metadata) : Bytes :=
  Wire.word32 m.major ++ Wire.word32 m.minor ++ Wire.string (Bytes.ofText m.postingsFormat)
    ++ Wire.word64 m.numDocs ++ Wire.word32 m.checksums.docsData
    ++ Wire.word32 m.checksums.docsIndex ++ Wire.word32 m.checksums.postings
    ++ Wire.word32 m.checksums.keys

def decode? (bs : Bytes) : Option (Metadata × Bytes) := do
  let (major, bs) ← Wire.word32? bs
  let (minor, bs) ← Wire.word32? bs
  let (name, bs) ← Wire.string? bs
  let cs ← (Utf8.decode name).toOption
  let (numDocs, bs) ← Wire.word64? bs
  let (docsData, bs) ← Wire.word32? bs
  let (docsIndex, bs) ← Wire.word32? bs
  let (postings, bs) ← Wire.word32? bs
  let (keys, bs) ← Wire.word32? bs
  some (⟨major, minor, .ofList cs, numDocs, ⟨docsData, docsIndex, postings, keys⟩⟩, bs)

/-- Reads metadata at the front of `bs`; what follows does not matter. -/
def decode (bs : Bytes) : Except Error Metadata :=
  match decode? bs with
  | some (m, _) => .ok m
  | none => .error (.format "invalid segment metadata")

end Metadata

end InvertedIndex.Segment
