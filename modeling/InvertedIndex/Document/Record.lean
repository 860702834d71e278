import InvertedIndex.Document
import InvertedIndex.Varint
import InvertedIndex.Wire

namespace InvertedIndex.Document

def recordBytes (bs : Bytes) : Bytes := Varint.encode bs.length ++ bs

def fieldRecord (f : Field) : Bytes := recordBytes f.name ++ recordBytes f.value

/-- A document as segments store it: all lengths are varints, and an empty identifier stands for a
missing one. -/
def record (d : Document) : Bytes :=
  recordBytes (d.id.getD []) ++ Varint.encode d.fields.length ++ d.fields.flatMap fieldRecord

def readVarint (bs : Bytes) : Except Error (Nat × Bytes) :=
  (Varint.decode bs).mapError fun fault => .format fault.reason

def readBytes (bs : Bytes) : Except Error (Bytes × Bytes) :=
  match readVarint bs with
  | .error e => .error e
  | .ok (n, rest) =>
    match rest.split? n with
    | none => .error (.format "document record truncated")
    | some r => .ok r

def readField (bs : Bytes) : Except Error (Field × Bytes) :=
  match readBytes bs with
  | .error e => .error e
  | .ok (name, rest) => (readBytes rest).map fun (value, rest) => (⟨name, value⟩, rest)

def readFields : Nat → Bytes → Except Error (List Field × Bytes)
  | 0, bs => .ok ([], bs)
  | n + 1, bs =>
    match readField bs with
    | .error e => .error e
    | .ok (f, rest) => (readFields n rest).map fun (fs, rest) => (f :: fs, rest)

/-- Reads the record at the front of `bs`. -/
def readRecord (bs : Bytes) : Except Error (Document × Bytes) :=
  match readBytes bs with
  | .error e => .error e
  | .ok (id, rest) =>
    match readVarint rest with
    | .error e => .error e
    | .ok (count, rest) =>
      (readFields count rest).map fun (fields, rest) =>
        (⟨if id.isEmpty then none else some id, fields⟩, rest)

/-- The form with lengths of a fixed width. It tells an empty identifier from a missing one. -/
def plain (d : Document) : Bytes :=
  Wire.option Wire.string d.id
    ++ Wire.list (fun f : Field => Wire.string f.name ++ Wire.string f.value) d.fields

end InvertedIndex.Document
