import InvertedIndex.Document

namespace InvertedIndex.Segment.Key

open Document (separatorBytes)

/-- Field and term with the separator between them. The keys of a field are those in the range from
`start` up to and without `stop`. -/
def encode (field term : Bytes) : Bytes := field ++ separatorBytes ++ term

/-- Splits a key at the first separator. -/
def split? : Bytes → Option (Bytes × Bytes)
  | [] => none
  | b :: bs =>
    if separatorBytes.isPrefixOf (b :: bs) then some ([], (b :: bs).drop separatorBytes.length)
    else (split? bs).map fun (field, term) => (b :: field, term)

def decode (key : Bytes) : Except Error (Bytes × Bytes) :=
  match split? key with
  | some parts => .ok parts
  | none => .error (.format "fields FST key without separator")

def start (field : Bytes) : Bytes := field ++ separatorBytes

/-- The bytes that follow the separator in order. -/
def behindSeparator : Bytes := [0xEE, 0x80, 0x81]

def stop (field : Bytes) : Bytes := field ++ behindSeparator

def inField (field key : Bytes) : Bool := start field ≤ key && key < stop field

end InvertedIndex.Segment.Key
