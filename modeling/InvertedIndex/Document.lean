import InvertedIndex.Error
import InvertedIndex.Utf8

namespace InvertedIndex

structure Field where
  name : Bytes
  value : Bytes
  deriving DecidableEq, Repr

namespace Field

/-- Fields are ordered by name and then by value. -/
def compare : Field → Field → Ordering := compareLex (compareOn name) (compareOn value)

end Field

/-- An identifier, which may be missing, and fields. Their order is kept, but does not matter where
documents are compared. -/
structure Document where
  id : Option Bytes
  fields : List Field
  deriving DecidableEq, Repr

namespace Document

/-- The field under which identifiers are found. -/
def idField : Bytes := Bytes.ofText "_id"

/-- Stands between field and value where both are written as one string; it occurs in neither. -/
def separator : Char := '\uE000'

def separatorBytes : Bytes := Utf8.encode [separator]

def hasId (d : Document) : Bool := d.id.isSome

/-- The value of the first field of that name. -/
def get? (d : Document) (name : Bytes) : Option Bytes :=
  (d.fields.find? (·.name = name)).map Field.value

def sortedFields (d : Document) : List Field :=
  d.fields.mergeSort fun f g => (f.compare g).isLE

def same (d e : Document) : Bool :=
  d.id = e.id && d.fields.length = e.fields.length && d.sortedFields = e.sortedFields

/-- Documents are ordered by identifier, where none comes first, and then by their fields in order. -/
def compare (d e : Document) : Ordering :=
  (Ord.compare d.id e.id).then (List.compareLex Field.compare d.sortedFields e.sortedFields)

/-- All documents can be compared. -/
def compare? (d e : Document) : Option Ordering := some (d.compare e)

/-- Names, values and identifiers are text without the separator. -/
def validateText (what : String) (bs : Bytes) : Except Error Unit :=
  match Utf8.decode bs with
  | .error fault => .error (.invalidDocument (what ++ " is not valid UTF-8: " ++ fault.reason))
  | .ok cs =>
    if cs.contains separator then
      .error (.invalidDocument (what ++ " contains the reserved separator"))
    else .ok ()

def validateId (id : Bytes) : Except Error Unit :=
  if id.isEmpty then .error (.invalidDocument "document ID is empty")
  else validateText "document ID" id

def validateField (f : Field) : Except Error Unit :=
  if f.name.isEmpty then .error (.invalidDocument "field name is empty")
  else if f.name = idField then
    .error (.invalidDocument
      ("field name " ++ Text.Quoted.quote (Utf8.decodeLossy idField).toList ++ " is reserved"))
  else
    match validateText "field name" f.name with
    | .error e => .error e
    | .ok () => validateText "field value" f.value

def validateFields : List Field → Except Error Unit
  | [] => .ok ()
  | f :: fs =>
    match validateField f with
    | .error e => .error e
    | .ok () => validateFields fs

def validateOptionalId : Option Bytes → Except Error Unit
  | none => .ok ()
  | some id => validateId id

/-- The first reason why a document cannot be indexed, if there is one. -/
def validate (d : Document) : Except Error Unit :=
  if d.fields.isEmpty then .error (.invalidDocument "document has no fields")
  else
    match validateOptionalId d.id with
    | .error e => .error e
    | .ok () => validateFields d.fields

end Document

end InvertedIndex
