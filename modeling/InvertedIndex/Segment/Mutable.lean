import InvertedIndex.Segment.Options

namespace InvertedIndex.Segment

/-- A segment that takes in documents. A document gets the next number, the watermark, and its fields and
its identifier become terms of the dictionary. -/
structure Mutable where
  /-- The number of the first document. -/
  offset : PostingsId
  /-- The identifiers that documents without one get, in turn. -/
  generator : Nat → Bytes
  /-- How many of them have been drawn. -/
  drawn : Nat
  dictionary : Dictionary
  /-- Slot `n` has room for the document with number `offset + n`. -/
  slots : Array (Option Document)
  /-- The number of the next document. -/
  watermark : PostingsId
  /-- Identifiers of deleted documents, in ascending order. -/
  tombstones : List Bytes
  isSealed : Bool
  isClosed : Bool
  /-- Readers that were opened and neither closed nor dropped. -/
  readers : Nat

/-- Documents that are inserted together. `isPartial` lets the valid ones in if some are not. -/
structure Batch where
  documents : List Document
  isPartial : Bool
  deriving DecidableEq

namespace Mutable

def name : String := "mutable segment"

def new (options : Options) (generator : Nat → Bytes) : Mutable where
  offset := options.offset
  generator
  drawn := 0
  dictionary := .new options.strategy
  slots := Array.replicate options.capacity.toNat none
  watermark := options.offset
  tombstones := []
  isSealed := false
  isClosed := false
  readers := 0

/-- The number of documents. -/
def size (s : Mutable) : Nat := s.watermark.toNat - s.offset.toNat

/-- How many more documents can be numbered. -/
def room (s : Mutable) : Nat := PostingsId.last.toNat - s.watermark.toNat

def slotOf (s : Mutable) (id : PostingsId) : Nat := id.toNat - s.offset.toNat

def document? (s : Mutable) (id : PostingsId) : Option Document :=
  if id < s.offset then none else (s.slots[s.slotOf id]?).join

/-- Makes room up to a slot; the number of slots is doubled at least. -/
def grow (slots : Array (Option Document)) (slot : Nat) : Array (Option Document) :=
  if slot < slots.size then slots
  else slots ++ Array.replicate (max (2 * slots.size) (slot + 1) - slots.size) none

/-- A slot is filled once. -/
def fill (slots : Array (Option Document)) (slot : Nat) (d : Document) : Array (Option Document) :=
  (grow slots slot).modify slot fun old => old.or (some d)

/-- The terms of a document: its fields, and its identifier as a field. -/
def termsOf (d : Document) : List Field :=
  d.fields ++ d.id.toList.map fun id => ⟨Document.idField, id⟩

/-- Takes in a document that is known to be valid and to have an identifier. -/
def commit (s : Mutable) (d : Document) : Mutable :=
  { s with
    dictionary := (termsOf d).foldl (·.insert · s.watermark) s.dictionary
    slots := fill s.slots (s.slotOf s.watermark) d
    watermark := s.watermark + 1 }

def checkOpen (s : Mutable) : Except Error Unit :=
  if s.isClosed then .error (.closed name) else .ok ()

def checkWritable (s : Mutable) : Except Error Unit :=
  if s.isClosed then .error (.closed name)
  else if s.isSealed then .error .isSealed
  else .ok ()

/-- Draws the next identifier, which has to be valid like any other. -/
def draw (s : Mutable) : Except Error Bytes × Mutable :=
  let id := s.generator s.drawn
  ((Document.validateId id).map fun () => id, { s with drawn := s.drawn + 1 })

def containsIdentifier (s : Mutable) (id : Bytes) : Except Error Bool :=
  s.dictionary.containsTerm Document.idField id

def duplicate (id : Bytes) : Error := .duplicateId (Utf8.decodeLossy id)

/-- An identifier for a document, drawn if it has none; the flag tells whether it was. -/
def identify (s : Mutable) (d : Document) : Except Error (Bytes × Bool) × Mutable :=
  match d.id with
  | some id => (.ok (id, false), s)
  | none =>
    let (id, s) := s.draw
    (id.map (·, true), s)

/-- What an insertion leaves behind: the segment, the document with its identifier, and the number of
the document or the reason why it was refused. -/
structure Insertion where
  segment : Mutable
  document : Document
  result : Except Error PostingsId

def insertWritable (s : Mutable) (d : Document) : Insertion :=
  match s.identify d with
  | (.error e, s) => ⟨s, d, .error e⟩
  | (.ok (id, _), s) =>
    match s.containsIdentifier id with
    | .error e => ⟨s, d, .error e⟩
    | .ok true => ⟨s, d, .error (duplicate id)⟩
    | .ok false =>
      if s.watermark = PostingsId.last then
        ⟨s, d, .error (.outOfBounds "postings ID space exhausted")⟩
      else
        let d := { d with id := some id }
        ⟨s.commit d, d, .ok s.watermark⟩

def insert (s : Mutable) (d : Document) : Insertion :=
  match s.checkWritable with
  | .error e => ⟨s, d, .error e⟩
  | .ok () =>
    match d.validate with
    | .error e => ⟨s, d, .error e⟩
    | .ok () => s.insertWritable d

/-- Where the resolution of a batch stands: the identifiers that were met, the documents to commit
with their places in the batch, and the failures, all latest first. -/
structure Resolution where
  segment : Mutable
  seen : List Bytes
  accepted : List (Nat × Document)
  failures : List (Nat × Error)

namespace Resolution

/-- A refused document fails a batch as a whole, unless the batch is partial. -/
def refuse (r : Resolution) (isPartial : Bool) (index : Nat) (e : Error) :
    Resolution × Option Error :=
  if isPartial then ({ r with failures := (index, e) :: r.failures }, none) else (r, some e)

/-- Resolves the identifier of a valid document. One that is indexed already is passed over if the
caller gave it, and refused if it was drawn; one that repeats within the batch is always refused. -/
def step (r : Resolution) (isPartial : Bool) (index : Nat) (d : Document) :
    Resolution × Option Error :=
  match r.segment.identify d with
  | (.error e, s) => { r with segment := s }.refuse isPartial index e
  | (.ok (id, isDrawn), s) =>
    let isRepeated := r.seen.contains id
    let r := { r with segment := s, seen := id :: r.seen }
    if isRepeated then r.refuse isPartial index (duplicate id)
    else
      match s.containsIdentifier id with
      | .error e => (r, some e)
      | .ok true => if isDrawn then r.refuse isPartial index (duplicate id) else (r, none)
      | .ok false => ({ r with accepted := (index, { d with id := some id }) :: r.accepted }, none)

def run (isPartial : Bool) : Resolution → List (Nat × Document) → Resolution × Option Error
  | r, [] => (r, none)
  | r, (index, d) :: rest =>
    match r.step isPartial index d with
    | (r, some e) => (r, some e)
    | (r, none) => run isPartial r rest

end Resolution

/-- What the insertion of a batch leaves behind; its committed documents have their identifiers. -/
structure BatchInsertion where
  segment : Mutable
  batch : Batch
  result : Except Error Unit

/-- Commits what a resolution accepted, if there are numbers for all of it. -/
def commitAll (r : Resolution) (b : Batch) : BatchInsertion :=
  let s := r.segment
  let accepted := r.accepted.reverse
  if s.room < accepted.length then
    ⟨s, b, .error (.outOfBounds ("batch of " ++ toString accepted.length
      ++ " documents exceeds the " ++ toString s.room ++ " remaining postings IDs"))⟩
  else
    { segment := accepted.foldl (fun s (_, d) => s.commit d) s
      batch := { b with documents := accepted.foldl (fun ds (i, d) => ds.set i d) b.documents }
      result := if r.failures.isEmpty then .ok () else .error (.partialBatch r.failures.reverse) }

/-- The documents of a batch that cannot be indexed, with the reasons. -/
def invalidIn (b : Batch) : List (Nat × Error) :=
  b.documents.zipIdx.filterMap fun (d, i) =>
    match d.validate with
    | .error e => some (i, e)
    | .ok () => none

def validIn (b : Batch) : List (Nat × Document) :=
  b.documents.zipIdx.filterMap fun (d, i) => if d.validate.toBool then some (i, d) else none

def insertBatchWritable (s : Mutable) (b : Batch) : BatchInsertion :=
  match b.isPartial, invalidIn b with
  | false, (_, e) :: _ => ⟨s, b, .error e⟩
  | _, invalid =>
    match Resolution.run b.isPartial ⟨s, [], [], invalid.reverse⟩ (validIn b) with
    | (r, some e) => ⟨r.segment, b, .error e⟩
    | (r, none) => commitAll r b

/-- Nothing of a batch is committed before the identifiers of all its documents are settled. -/
def insertBatch (s : Mutable) (b : Batch) : BatchInsertion :=
  match s.checkWritable with
  | .error e => ⟨s, b, .error e⟩
  | .ok () => s.insertBatchWritable b

/-- Notes that a document is deleted. Queries find it still; it is left out of what is built. -/
def tombstone (s : Mutable) (id : Bytes) : Except Error Mutable :=
  s.checkWritable.map fun () => { s with tombstones := Bytes.insert id s.tombstones }

/-- Sealing ends the writing. -/
def sealSegment (s : Mutable) : Except Error Mutable :=
  s.checkWritable.map fun () => { s with isSealed := true }

/-- Closing ends the writing and the opening of readers. -/
def close (s : Mutable) : Except Error Mutable :=
  s.checkOpen.map fun () => { s with isClosed := true }

/-- Answers a query on the dictionary of an open segment. -/
def query (s : Mutable) (f : Dictionary → Except Error α) : Except Error α :=
  match s.checkOpen with
  | .error e => .error e
  | .ok () => f s.dictionary

/-- The numbers from `lo` up to and without `hi`. -/
def idsBetween (lo hi : PostingsId) : List PostingsId :=
  (List.range' lo.toNat (hi.toNat - lo.toNat)).map .ofNat

def resolve (s : Mutable) (id : PostingsId) : Except Error Document :=
  match s.document? id with
  | some d => .ok d
  | none => .error (.unknownPostingsId id)

/-- All documents in the order of their numbers, whether the segment is closed or not. -/
def committed (s : Mutable) : Except Error (List Document) :=
  (idsBetween s.offset s.watermark).mapM s.resolve

end Mutable

end InvertedIndex.Segment
