import InvertedIndex.Segment.Data
import InvertedIndex.Segment.DocsRegion
import InvertedIndex.Segment.KeyAutomaton
import InvertedIndex.Segment.KeyFormat
import InvertedIndex.Segment.PostingsRegion

namespace InvertedIndex.Segment

/-- What an open segment holds. -/
structure Contents where
  metadata : Metadata
  docs : DocsIndex
  postings : Bytes
  keys : KeyMap

namespace Contents

def base (c : Contents) : PostingsId := c.docs.base

def limit (c : Contents) : PostingsId := c.docs.limit

/-- The number of documents. -/
def size (c : Contents) : Nat := c.limit.toNat - c.base.toNat

/-- Opens regions whose checksums are right, with a reader for the keys. -/
def ofRegions (decode? : Bytes → Option KeyMap) (r : Regions) : Except Error Contents := do
  let docs ← DocsIndex.ofRegions r.docsData r.docsIndex
  let stored := docs.limit.toNat - docs.base.toNat
  if stored ≠ r.metadata.numDocs.toNat then
    throw (.format ("documents index holds " ++ toString stored
      ++ " documents, metadata says " ++ toString r.metadata.numDocs.toNat))
  let keys ← KeyMap.ofRegion decode? r.keys
  return ⟨r.metadata, docs, r.postings, keys⟩

def ofData (decode? : Bytes → Option KeyMap) (d : Data) : Except Error Contents :=
  match d.validate with
  | .error e => .error e
  | .ok r => ofRegions decode? r

def postingsAt (c : Contents) (stop : UInt64) : Except Error Postings :=
  PostingsRegion.read c.postings stop.toNat

/-- The union of the postings that end at the given places. -/
def unionAt (c : Contents) (found : Postings) : List UInt64 → Except Error Postings
  | [] => .ok found
  | stop :: stops =>
    match c.postingsAt stop with
    | .error e => .error e
    | .ok p => unionAt c (found.union p) stops

def matchTerm (c : Contents) (field value : Bytes) : Except Error Postings :=
  match c.keys.get? (Key.encode field value) with
  | some stop => c.postingsAt stop
  | none => .ok ∅

/-- The keys of a field and the ends of their postings. -/
def entriesOf (c : Contents) (field : Bytes) : List (Bytes × UInt64) :=
  c.keys.entries.filter fun (key, _) => Key.inField field key

def matchField (c : Contents) (field : Bytes) : Except Error Postings :=
  c.unionAt ∅ ((c.entriesOf field).map Prod.snd)

/-- The ends of the postings whose keys an automaton accepts, found by walking over all keys. -/
def stopsMatching {σ : Type} (c : Contents) (a : KeyAutomaton σ) : List UInt64 :=
  (c.keys.entries.filter fun (key, _) => a.accepts key).map Prod.snd

/-- Tests every term of a field in turn. -/
def scan (c : Contents) (p : Pattern) (found : Postings) :
    List (Bytes × UInt64) → Except Error Postings
  | [] => .ok found
  | (key, stop) :: rest =>
    match Key.decode key with
    | .error e => .error e
    | .ok (_, term) =>
      if p.isMatch term then
        match c.postingsAt stop with
        | .error e => .error e
        | .ok q => scan c p (found.union q) rest
      else scan c p found rest

/-- Terms are found by an automaton, if there is one for the pattern, and else tested one by one. -/
def matchBy {σ : Type} (c : Contents) (a? : Option (TermAutomaton σ)) (field : Bytes) (p : Pattern) :
    Except Error Postings :=
  match a? with
  | some a => c.unionAt ∅ (c.stopsMatching (.new field a))
  | none => c.scan p ∅ (c.entriesOf field)

def matchPattern (c : Contents) (field : Bytes) (p : Pattern) : Except Error Postings :=
  c.matchBy ((Pattern.automaton? p.text).map .ofTree) field p

def matchAll (c : Contents) : Postings := .ofRange c.base c.limit

def containsTerm (c : Contents) (field value : Bytes) : Bool :=
  c.keys.contains (Key.encode field value)

def containsId (c : Contents) (id : Bytes) : Bool := c.containsTerm Document.idField id

def containsField (c : Contents) (field : Bytes) : Bool := !(c.entriesOf field).isEmpty

/-- Leaves out what equals the one before. -/
def dropRepeats : List Bytes → List Bytes
  | x :: y :: rest => if x = y then dropRepeats (y :: rest) else x :: dropRepeats (y :: rest)
  | xs => xs

def fieldNames (c : Contents) : Except Error (List Bytes) :=
  (c.keys.keys.mapM Key.decode).map fun parts => dropRepeats (parts.map Prod.fst)

def terms (c : Contents) (field : Bytes) : Except Error (List Bytes) :=
  (((c.entriesOf field).map Prod.fst).mapM Key.decode).map (·.map Prod.snd)

def document (c : Contents) (id : PostingsId) : Except Error Document := c.docs.get id

def documents (c : Contents) (p : Postings) : Except Error (List Document) :=
  p.toList.mapM c.docs.get

def allDocuments (c : Contents) : Except Error (List Document) := c.documents c.matchAll

end Contents

/-- An immutable segment, which holds nothing any more once it is closed. -/
structure Immutable where
  contents : Option Contents

namespace Immutable

def name : String := "fst segment"

def openData (decode? : Bytes → Option KeyMap) (d : Data) : Except Error Immutable :=
  (Contents.ofData decode? d).map fun c => ⟨some c⟩

/-- Answers a query on what the segment holds. -/
def query (s : Immutable) (f : Contents → Except Error α) : Except Error α :=
  match s.contents with
  | some c => f c
  | none => .error (.closed name)

def close (s : Immutable) : Except Error Immutable := s.query fun _ => .ok ⟨none⟩

def isClosed (s : Immutable) : Bool := s.contents.isNone

def debugText (s : Immutable) : String :=
  match s.contents with
  | some c =>
    "FstSegment \x7b base: " ++ PostingsId.debugText c.base ++ ", limit: "
      ++ PostingsId.debugText c.limit ++ ", keys: " ++ toString c.keys.size ++ " \x7d"
  | none => "FstSegment(closed)"

end Immutable

/-- A reader of an immutable segment is closed on its own. -/
structure ImmutableReader where
  isClosed : Bool
  deriving DecidableEq

namespace ImmutableReader

def name : String := "fst segment reader"

def query (r : ImmutableReader) (s : Immutable) (f : Contents → Except Error α) : Except Error α :=
  if r.isClosed then .error (.closed name) else s.query f

def close (r : ImmutableReader) : Except Error ImmutableReader :=
  if r.isClosed then .error (.closed name) else .ok ⟨true⟩

def debugText (r : ImmutableReader) (s : Immutable) : String :=
  "FstReader \x7b segment: " ++ s.debugText ++ ", closed: " ++ toString r.isClosed ++ " \x7d"

end ImmutableReader

end InvertedIndex.Segment
