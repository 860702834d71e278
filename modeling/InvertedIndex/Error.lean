import InvertedIndex.Bytes
import InvertedIndex.Text.Quoted

namespace InvertedIndex

/-- Why a store of segments could not do what it was asked to. -/
inductive StorageFault where
  | notFound
  | alreadyExists
  | notADirectory
  | invalidPath
  | nameTooLong
  | invalidName (name : List Char)
  deriving DecidableEq, Repr

/-- What can go wrong. -/
inductive Error where
  | invalidDocument (reason : String)
  | duplicateId (id : String)
  /-- The documents of a batch that were left out, by their place in the batch. -/
  | partialBatch (failures : List (Nat × Error))
  | unknownPostingsId (id : UInt32)
  | outOfBounds (reason : String)
  | closed (what : String)
  | isSealed
  | notSealed
  | format (reason : String)
  | checksumMismatch (region : String) (expected actual : UInt32)
  | unsupportedVersion (expected actual : UInt32)
  | unsupportedPostingsFormat (name : String)
  | missingRegion (region : String)
  | unsupportedQuery (reason : String)
  | invalidPattern (reason : String)
  | emptyPostings
  | storage (fault : StorageFault)
  /-- A number outgrew the word that should hold it. -/
  | overflow
  deriving Repr, Inhabited

namespace StorageFault

def message : StorageFault → String
  | notFound => "entity not found"
  | alreadyExists => "entity already exists"
  | notADirectory => "not a directory"
  | invalidPath => "invalid path"
  | nameTooLong => "name too long"
  | invalidName name => "invalid segment name " ++ Text.Quoted.quote name

/-- The kind of fault that callers tell apart. -/
def kind : StorageFault → String
  | notFound => "NotFound"
  | alreadyExists => "AlreadyExists"
  | notADirectory => "NotADirectory"
  | nameTooLong => "InvalidFilename"
  | invalidPath | invalidName _ => "InvalidInput"

end StorageFault

namespace Error

/-- Eight hexadecimal digits behind `0x`. -/
def hexWord (x : UInt32) : String :=
  let digits := Nat.toDigits 16 x.toNat
  "0x" ++ .ofList (List.replicate (8 - digits.length) '0' ++ digits)

mutual

/-- How an error is worded. -/
def message : Error → String
  | invalidDocument reason => "Invalid document: " ++ reason
  | duplicateId id => "Duplicate document ID: " ++ id
  | partialBatch failures =>
    "Batch partially failed: " ++ toString failures.length ++ " document(s) skipped"
      ++ messageOfAll failures
  | unknownPostingsId id => "Unknown postings ID: " ++ toString id.toNat
  | outOfBounds reason => "Offset out of bounds: " ++ reason
  | closed what => what ++ " is closed"
  | isSealed => "Segment is sealed"
  | notSealed => "Segment is not sealed"
  | format reason => "Format error: " ++ reason
  | checksumMismatch region expected actual =>
    "Checksum mismatch in " ++ region ++ ": expected " ++ hexWord expected ++ ", got "
      ++ hexWord actual
  | unsupportedVersion expected actual =>
    "Unsupported segment version: expected major " ++ toString expected.toNat ++ ", got "
      ++ toString actual.toNat
  | unsupportedPostingsFormat name => "Unsupported postings format: " ++ name
  | missingRegion region => "Missing segment region: " ++ region
  | unsupportedQuery reason => "Unsupported query: " ++ reason
  | invalidPattern reason => "Invalid regular expression: " ++ reason
  | emptyPostings => "Postings list is empty"
  | storage fault => "IO error: " ++ fault.message
  | overflow => "arithmetic overflow"

def messageOfAll : List (Nat × Error) → String
  | [] => ""
  | (index, e) :: rest => "; [" ++ toString index ++ "] " ++ message e ++ messageOfAll rest

end

/-- The error was found while stored data was read. -/
def isFormatError : Error → Bool
  | format _ | checksumMismatch .. | unsupportedVersion .. | unsupportedPostingsFormat _
  | missingRegion _ => true
  | _ => false

/-- The error comes from the use of something closed. -/
def isClosed : Error → Bool
  | closed _ => true
  | _ => false

/-- The places of the documents that were left out, in ascending order. -/
def indices (failures : List (Nat × Error)) : List Nat := (failures.map Prod.fst).mergeSort

end Error

end InvertedIndex
