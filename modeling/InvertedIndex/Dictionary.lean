import InvertedIndex.Dictionary.Trigram

namespace InvertedIndex

/-- A dictionary keeps the values themselves or only their trigrams. -/
inductive Strategy where
  | exact
  | trigram
  deriving DecidableEq, Repr

def Strategy.name : Strategy → String
  | exact => "Exact"
  | trigram => "Trigram"

/-- From a field and a value to the documents that have both. -/
inductive Dictionary where
  | exact (d : Dictionary.Exact)
  | trigram (d : Dictionary.Trigram)

namespace Dictionary

/-- What a query hands out: postings as they are, or an entry of the dictionary, which later
insertions show in. -/
inductive Answer where
  | fixed (p : Postings)
  | live (field term : Bytes)
  deriving DecidableEq

def new : Strategy → Dictionary
  | .exact => exact .empty
  | .trigram => trigram .empty

def strategy : Dictionary → Strategy
  | exact _ => .exact
  | trigram _ => .trigram

def insert (d : Dictionary) (f : Field) (id : PostingsId) : Dictionary :=
  match d with
  | exact d => exact (d.insert f.name f.value id)
  | trigram d => trigram (d.insert f id)

/-- The entries that live answers refer to. -/
def entries : Dictionary → Exact
  | exact d => d
  | trigram d => d.grams

/-- An entry stays live; one that does not exist yet is answered by no postings for good. -/
def liveAnswer (d : Exact) (field term : Bytes) : Answer :=
  if d.containsTerm field term then .live field term else .fixed ∅

/-- What an answer stands for now. -/
def read (d : Dictionary) : Answer → Postings
  | .fixed p => p
  | .live field term => d.entries.postings field term

def matchExact (d : Dictionary) (field value : Bytes) : Except Error Answer :=
  match d with
  | exact d => .ok (liveAnswer d field value)
  | trigram d => (d.matchExact field value).map .fixed

def matchPattern (d : Dictionary) (field : Bytes) (p : Pattern) : Except Error Answer :=
  match d with
  | exact d => .ok (.fixed (d.matchPattern field p))
  | trigram d => (d.matchPattern field p).map .fixed

def matchField (d : Dictionary) (field : Bytes) : Answer :=
  match d with
  | exact d => .fixed (d.matchField field)
  | trigram d => liveAnswer d.grams field Trigram.anyValue

def containsTerm (d : Dictionary) (field value : Bytes) : Except Error Bool :=
  match d with
  | exact d => .ok (d.containsTerm field value)
  | trigram d => (d.matchExact field value).map fun p => !p.isEmpty

def containsField (d : Dictionary) (field : Bytes) : Bool := d.entries.containsField field

def fieldNames (d : Dictionary) : List Bytes := d.entries.fieldNames

def terms (d : Dictionary) (field : Bytes) : Except Error (List Bytes) :=
  match d with
  | exact d => .ok (d.terms field)
  | trigram _ =>
    .error (.unsupportedQuery "trigram dictionary does not keep field values")

end Dictionary

end InvertedIndex
