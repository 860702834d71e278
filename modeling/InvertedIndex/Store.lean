import InvertedIndex.ByteMap
import InvertedIndex.Segment.Data

namespace InvertedIndex

/-- The files of a stored segment by their names. -/
abbrev SegmentFiles := ByteMap Bytes

/-- A directory of stored segments: under each name a directory of its own, with a file for every region
that is there. Plain files beside them are no segments, but take up their names. -/
structure Store where
  segments : ByteMap SegmentFiles
  /-- Files that stand beside the segments. -/
  plain : ByteMap Bytes

namespace Store

open Segment (Data)

def empty : Store := ⟨∅, ∅⟩

def metadataFile : Bytes := Bytes.ofText "segment.meta"

def docsDataFile : Bytes := Bytes.ofText "docs.data"

def docsIndexFile : Bytes := Bytes.ofText "docs.index"

def postingsFile : Bytes := Bytes.ofText "postings.data"

def keysFile : Bytes := Bytes.ofText "fields.fst"

/-- A name is not empty, stays in the directory and has no separators of paths. -/
def isValidName (name : List Char) : Bool :=
  !name.isEmpty && name != ['.'] && name != ['.', '.'] && !name.contains '/' && !name.contains '\\'

/-- The key of a valid name. -/
def checkName (name : List Char) : Except Error Bytes :=
  if isValidName name then .ok (Utf8.encode name)
  else .error (.storage (.invalidName name))

def maxNameSize : Nat := 255

/-- Why the file system does not take a name, if it does not. -/
def nameFault? (key : Bytes) : Option StorageFault :=
  if key.contains 0 then some .invalidPath
  else if maxNameSize < key.length then some .nameTooLong
  else none

def put (files : SegmentFiles) (file : Bytes) : Option Bytes → SegmentFiles
  | some region => files.insert file region
  | none => files

def toFiles (d : Data) : SegmentFiles :=
  let files := put ∅ metadataFile d.metadata
  let files := put files docsDataFile d.docsData
  let files := put files docsIndexFile d.docsIndex
  let files := put files postingsFile d.postings
  put files keysFile d.keys

def ofFiles (files : SegmentFiles) : Data where
  metadata := files.get? metadataFile
  docsData := files.get? docsDataFile
  docsIndex := files.get? docsIndexFile
  postings := files.get? postingsFile
  keys := files.get? keysFile

/-- Stores the regions that are there under a new name. -/
def write (s : Store) (name : List Char) (d : Data) : Except Error Store :=
  match checkName name with
  | .error e => .error e
  | .ok key =>
    match nameFault? key with
    | some fault => .error (.storage fault)
    | none =>
      if s.segments.contains key || s.plain.contains key then .error (.storage .alreadyExists)
      else .ok { s with segments := s.segments.insert key (toFiles d) }

def openSegment (s : Store) (name : List Char) : Except Error Data :=
  match checkName name with
  | .error e => .error e
  | .ok key =>
    match s.segments.get? key with
    | none => .error (.storage .notFound)
    | some files => .ok (ofFiles files)

/-- The names of the stored segments in ascending order. -/
def names (s : Store) : List Bytes := s.segments.keys

def remove (s : Store) (name : List Char) : Except Error Store :=
  match checkName name with
  | .error e => .error e
  | .ok key =>
    match nameFault? key with
    | some fault => .error (.storage fault)
    | none =>
      if s.plain.contains key then .error (.storage .notADirectory)
      else if s.segments.contains key then .ok { s with segments := s.segments.erase key }
      else .error (.storage .notFound)

end Store

end InvertedIndex
