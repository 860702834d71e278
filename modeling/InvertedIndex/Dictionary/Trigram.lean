import InvertedIndex.Dictionary.Exact
import InvertedIndex.Document
import InvertedIndex.Trigram.Analysis

namespace InvertedIndex.Dictionary

/-- The dictionary that keeps only the trigrams of values. A query finds candidates by their trigrams and
then tests the candidates' fields themselves. -/
structure Trigram where
  /-- From a field to the trigrams of its values. The empty string stands for any value. -/
  grams : Exact
  /-- What was inserted, the latest first. -/
  log : List (PostingsId × Field)

namespace Trigram

open InvertedIndex.Trigram (Query)

def empty : Trigram := ⟨.empty, []⟩

/-- Stands among the trigrams of every value. -/
def anyValue : Bytes := []

def gramsOf (value : Bytes) : List Bytes :=
  anyValue :: (InvertedIndex.Trigram.windows value).map InvertedIndex.Trigram.toBytes

def insert (d : Trigram) (f : Field) (id : PostingsId) : Trigram where
  grams := (gramsOf f.value).foldl (fun grams gram => grams.insert f.name gram id) d.grams
  log := (id, f) :: d.log

def matchField (d : Trigram) (field : Bytes) : Postings := d.grams.postings field anyValue

mutual

/-- The documents whose trigrams in a field satisfy a query. -/
def evaluate (d : Trigram) (field : Bytes) : Query → Postings
  | .all => d.matchField field
  | .none => ∅
  | .trigram t => d.grams.postings field t.toBytes
  | .and subs =>
    match subs with
    | [] => d.matchField field
    | q :: qs => evaluateAll d field (evaluate d field q) qs
  | .or subs => evaluateAny d field subs

/-- What of `found` satisfies all of the queries. -/
def evaluateAll (d : Trigram) (field : Bytes) (found : Postings) : List Query → Postings
  | [] => found
  | q :: qs =>
    if found.isEmpty then found else evaluateAll d field (found.inter (evaluate d field q)) qs

def evaluateAny (d : Trigram) (field : Bytes) : List Query → Postings
  | [] => ∅
  | q :: qs => (evaluate d field q).union (evaluateAny d field qs)

end

/-- A candidate stays if a value of the field that was inserted for it matches. -/
def verify (d : Trigram) (field : Bytes) (p : Pattern) (candidates : Postings) : Postings :=
  let inserted := d.log.filter fun (_, f) => f.name = field
  .ofList (candidates.toList.filter fun id =>
    inserted.any fun (i, f) => i = id && p.isMatch f.value)

def matchPattern (d : Trigram) (field : Bytes) (p : Pattern) : Except Error Postings :=
  (Query.ofPattern p.text).map fun q => d.verify field p (d.evaluate field q)

/-- A value that is not text was never inserted. -/
def matchExact (d : Trigram) (field value : Bytes) : Except Error Postings :=
  if Utf8.isValid value then
    match Pattern.literal value with
    | .error e => .error e
    | .ok p => d.matchPattern field p
  else .ok ∅

end Trigram

end InvertedIndex.Dictionary
