import InvertedIndex.Checksum
import InvertedIndex.Segment.Metadata

namespace InvertedIndex.Segment

/-- The regions of an immutable segment as they are kept. Any of them may be missing; a segment can be
opened only if all are there and agree with the checksums. -/
structure Data where
  metadata : Option Bytes
  docsData : Option Bytes
  docsIndex : Option Bytes
  postings : Option Bytes
  keys : Option Bytes
  deriving DecidableEq

/-- Regions of which none is missing, with their metadata read. -/
structure Regions where
  metadata : Metadata
  docsData : Bytes
  docsIndex : Bytes
  postings : Bytes
  keys : Bytes

namespace Data

def empty : Data := ⟨none, none, none, none, none⟩

def regions (d : Data) : List (Option Bytes) :=
  [d.metadata, d.docsData, d.docsIndex, d.postings, d.keys]

def size (d : Data) : Nat := d.regions.foldr (fun r n => (r.getD []).length + n) 0

def regionText (bs : Bytes) : String := "Region(" ++ toString bs.length ++ " bytes)"

def require (region : Option Bytes) (name : String) : Except Error Bytes :=
  match region with
  | some bs => .ok bs
  | none => .error (.missingRegion name)

def verify (bs : Bytes) (name : String) (expected : UInt32) : Except Error Unit :=
  let actual := Checksum.crc32 bs
  if actual = expected then .ok () else .error (.checksumMismatch name expected actual)

def checksums (docsData docsIndex postings keys : Bytes) : Checksums where
  docsData := Checksum.crc32 docsData
  docsIndex := Checksum.crc32 docsIndex
  postings := Checksum.crc32 postings
  keys := Checksum.crc32 keys

/-- All regions, with metadata that fits them. -/
def ofRegions (numDocs : UInt64) (docsData docsIndex postings keys : Bytes) : Data where
  metadata := some (Metadata.new numDocs (checksums docsData docsIndex postings keys)).encode
  docsData := some docsData
  docsIndex := some docsIndex
  postings := some postings
  keys := some keys

/-- Checks that the regions are there, then what the metadata say, then the checksums. -/
def validate (d : Data) : Except Error Regions := do
  let metadata ← require d.metadata "metadata"
  let docsData ← require d.docsData "documents data"
  let docsIndex ← require d.docsIndex "documents index"
  let postings ← require d.postings "postings data"
  let keys ← require d.keys "fields fst"
  let m ← Metadata.decode metadata
  if m.major ≠ Metadata.majorVersion then
    throw (.unsupportedVersion Metadata.majorVersion m.major)
  if m.postingsFormat ≠ Metadata.roaringFormat then
    throw (.unsupportedPostingsFormat m.postingsFormat)
  verify docsData "documents data" m.checksums.docsData
  verify docsIndex "documents index" m.checksums.docsIndex
  verify postings "postings data" m.checksums.postings
  verify keys "fields fst" m.checksums.keys
  return ⟨m, docsData, docsIndex, postings, keys⟩

end Data

end InvertedIndex.Segment
