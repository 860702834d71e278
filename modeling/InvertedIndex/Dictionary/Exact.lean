import InvertedIndex.ByteMap
import InvertedIndex.Pattern
import InvertedIndex.Postings

namespace InvertedIndex.Dictionary

/-- The dictionary that keeps every value: from a field to its values, and from a value to its postings.
-/
structure Exact where
  fields : ByteMap (ByteMap Postings)

namespace Exact

def empty : Exact := ⟨∅⟩

def values (d : Exact) (field : Bytes) : ByteMap Postings := (d.fields.get? field).getD ∅

/-- The postings of a pair that was inserted at least once. -/
def postings? (d : Exact) (field value : Bytes) : Option Postings := (d.values field).get? value

/-- The postings of a pair; there are none if it was never inserted. -/
def postings (d : Exact) (field value : Bytes) : Postings := (d.postings? field value).getD ∅

def insert (d : Exact) (field value : Bytes) (id : PostingsId) : Exact where
  fields := d.fields.alter field fun values =>
    (values.getD ∅).alter value fun p => (p.getD ∅).insert id

def containsTerm (d : Exact) (field value : Bytes) : Bool := (d.postings? field value).isSome

def containsField (d : Exact) (field : Bytes) : Bool := d.fields.contains field

def fieldNames (d : Exact) : List Bytes := d.fields.keys

def terms (d : Exact) (field : Bytes) : List Bytes := (d.values field).keys

/-- The postings of all values of a field that pass the test. -/
def having (d : Exact) (field : Bytes) (test : Bytes → Bool) : Postings :=
  Postings.unionOf (((d.values field).entries.filter fun (value, _) => test value).map Prod.snd)

def matchField (d : Exact) (field : Bytes) : Postings := d.having field fun _ => true

def matchPattern (d : Exact) (field : Bytes) (p : Pattern) : Postings := d.having field p.isMatch

theorem values_insert (d : Exact) (field value : Bytes) (id : PostingsId) (name : Bytes) :
    (d.insert field value id).values name =
      if name = field then (d.values field).alter value fun p => (p.getD ∅).insert id
      else d.values name := by
  unfold values insert
  rw [ByteMap.get?_alter]
  split <;> rfl

theorem postings?_insert (d : Exact) (field value : Bytes) (id : PostingsId) (name term : Bytes) :
    (d.insert field value id).postings? name term =
      if name = field ∧ term = value then some ((d.postings field value).insert id)
      else d.postings? name term := by
  unfold postings? postings
  rw [values_insert]
  split
  · next h =>
    subst h
    rw [ByteMap.get?_alter]
    simp [postings?]
  · next h => simp [h]

end Exact

end InvertedIndex.Dictionary
