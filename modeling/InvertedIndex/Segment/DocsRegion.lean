import InvertedIndex.Document.Record
import InvertedIndex.Postings

namespace InvertedIndex.Segment

/-- Size of the first number and of every place in an index. -/
def indexWordSize : Nat := 8

/-- Records and index as they are written. -/
structure DocsRegion where
  data : Bytes
  index : Bytes

namespace DocsRegion

/-- No documents yet. -/
def empty (base : PostingsId) : DocsRegion := ⟨[], Bytes.ofBE indexWordSize base.toNat⟩

/-- Adds a document behind the others. -/
def add (r : DocsRegion) (d : Document) : DocsRegion where
  data := r.data ++ d.record
  index := r.index ++ Bytes.ofBE indexWordSize r.data.length

/-- The places where the records start, the first one at `start`. -/
def places (start : Nat) : List Document → List Nat
  | [] => []
  | d :: ds => start :: places (start + d.record.length) ds

def ofDocuments (base : PostingsId) (ds : List Document) : DocsRegion where
  data := ds.flatMap Document.record
  index := (base.toNat :: places 0 ds).flatMap (Bytes.ofBE indexWordSize)

@[simp] theorem length_places (start : Nat) (ds : List Document) :
    (places start ds).length = ds.length := by
  induction ds generalizing start with
  | nil => rfl
  | cons d ds ih => simp [places, ih]

end DocsRegion

/-- The same regions with the numbers of the documents in them: from `base` up to and without
`limit`. -/
structure DocsIndex where
  data : Bytes
  index : Bytes
  base : PostingsId
  limit : PostingsId

namespace DocsIndex

/-- The numbers that an index covers. -/
def bounds (index : Bytes) : Except Error (PostingsId × PostingsId) :=
  match index.split? indexWordSize with
  | none =>
    .error (.format ("documents index header truncated: " ++ toString index.length ++ " bytes"))
  | some (header, places) =>
    if places.length % indexWordSize ≠ 0 then
      .error (.format ("documents index has a partial entry: " ++ toString index.length ++ " bytes"))
    else
      let base := header.toBE
      let limit := base + places.length / indexWordSize
      if UInt64.size ≤ limit then .error .overflow
      else if PostingsId.last.toNat < limit then
        .error (.format ("documents index covers postings IDs up to " ++ toString limit))
      else .ok (.ofNat base, .ofNat limit)

def ofRegions (data index : Bytes) : Except Error DocsIndex :=
  (bounds index).map fun (base, limit) => ⟨data, index, base, limit⟩

def contains (x : DocsIndex) (id : PostingsId) : Bool := x.base ≤ id && id < x.limit

/-- Where the record of a document starts. -/
def place (x : DocsIndex) (id : PostingsId) : Nat :=
  let start := (id.toNat - x.base.toNat) * indexWordSize + indexWordSize
  (x.index.slice start indexWordSize).toBE

def get (x : DocsIndex) (id : PostingsId) : Except Error Document :=
  if !x.contains id then .error (.unknownPostingsId id)
  else
    let start := x.place id
    if x.data.length ≤ start then
      .error (.outOfBounds ("document offset " ++ toString start
        ++ " beyond documents data of " ++ toString x.data.length ++ " bytes"))
    else (Document.readRecord (x.data.drop start)).map Prod.fst

end DocsIndex

end InvertedIndex.Segment
