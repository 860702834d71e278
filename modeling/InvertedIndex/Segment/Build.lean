import InvertedIndex.Segment.Immutable
import InvertedIndex.Segment.Merged
import InvertedIndex.Segment.Mutable

namespace InvertedIndex.Segment

/-- A segment that another one is built from. -/
inductive Source where
  /-- Has to be sealed or closed. -/
  | fromMutable (s : Mutable)
  | fromImmutable (s : Immutable)

namespace Source

/-- The documents that a source hands out, in the order of their numbers. -/
def documents : Source → Except Error (List Document)
  | fromMutable s => if !s.isSealed && !s.isClosed then .error .notSealed else s.committed
  | fromImmutable s => s.query Contents.allDocuments

/-- The identifiers that are removed when the documents of the source are there. -/
def tombstones : Source → List Bytes
  | fromMutable s => s.tombstones
  | fromImmutable _ => []

end Source

namespace Build

def mergeSource (m : Merged) (source : Source) : Except Error Merged :=
  source.documents.map fun ds => source.tombstones.foldl Merged.remove (ds.foldl Merged.add m)

def mergeFrom (m : Merged) : List Source → Except Error Merged
  | [] => .ok m
  | source :: sources =>
    match mergeSource m source with
    | .error e => .error e
    | .ok m => mergeFrom m sources

/-- Documents are merged by their identifiers, first come first served; the tombstones of a source remove
what came before them. -/
def merge (sources : List Source) : Except Error (List Document) :=
  (mergeFrom .empty sources).map Merged.live

/-- Postings by key. -/
abbrev Index := ByteMap Postings

def addTerm (index : Index) (id : PostingsId) (f : Field) : Index :=
  index.alter (Key.encode f.name f.value) fun p => (p.getD ∅).insert id

def addDocument (index : Index) (d : Document) (id : PostingsId) : Index :=
  (Mutable.termsOf d).foldl (fun index f => addTerm index id f) index

/-- The postings of documents that are numbered from `base` on. -/
def indexOf (base : PostingsId) (ds : List Document) : Index :=
  ds.zipIdx.foldl (fun index (d, i) => addDocument index d (base + .ofNat i)) ∅

/-- The keys of an index, each with the place where its postings end in the region of postings. -/
def keysOf (index : Index) : KeyMap where
  entries := index.keys.zip ((PostingsRegion.stops 0 index.values).map .ofNat)
  ascending := by
    rw [List.map_fst_zip]
    · exact index.ascending
    · simp [ByteMap.keys, ByteMap.values]

def write (format : KeyFormat) (base : PostingsId) (ds : List Document) : Data :=
  let docs := DocsRegion.ofDocuments base ds
  let index := indexOf base ds
  .ofRegions (.ofNat ds.length) docs.data docs.index (PostingsRegion.encode index.values)
    (format.encode (keysOf index))

/-- Builds the data of a segment, if there are numbers for all documents. -/
def build (format : KeyFormat) (base : PostingsId) (sources : List Source) : Except Error Data :=
  match merge sources with
  | .error e => .error e
  | .ok ds =>
    if PostingsId.last.toNat < base.toNat + ds.length then
      .error (.outOfBounds ("postings IDs from base " ++ toString base.toNat ++ " exhausted"))
    else .ok (write format base ds)

def buildSegment (format : KeyFormat) (base : PostingsId) (sources : List Source) :
    Except Error Immutable :=
  match build format base sources with
  | .error e => .error e
  | .ok d => Immutable.openData format.decode? d

end Build

end InvertedIndex.Segment
