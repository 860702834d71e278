import InvertedIndex.Segment.Mutable

namespace InvertedIndex.Segment

/-- A reader sees the documents below the watermark of the moment when it was opened, however much is
inserted later. -/
structure Reader where
  watermark : PostingsId
  isClosed : Bool
  deriving DecidableEq

namespace Reader

def name : String := "mutable segment reader"

def debugText (r : Reader) : String :=
  "MutableReader \x7b watermark: " ++ PostingsId.debugText r.watermark ++ ", closed: "
    ++ toString r.isClosed ++ " \x7d"

def checkOpen (r : Reader) : Except Error Unit :=
  if r.isClosed then .error (.closed name) else .ok ()

/-- Answers a query on the dictionary as it is now. -/
def query (r : Reader) (s : Mutable) (f : Dictionary → Except Error α) : Except Error α :=
  match r.checkOpen with
  | .error e => .error e
  | .ok () => f s.dictionary

def matchAll (r : Reader) (s : Mutable) : Except Error Postings :=
  r.checkOpen.map fun () => .ofRange s.offset r.watermark

/-- The documents of a list that the reader can see. -/
def documents (r : Reader) (s : Mutable) (p : Postings) : Except Error (List Document) :=
  match r.checkOpen with
  | .error e => .error e
  | .ok () => (p.truncate r.watermark).toList.mapM s.resolve

def allDocuments (r : Reader) (s : Mutable) : Except Error (List Document) :=
  match r.checkOpen with
  | .error e => .error e
  | .ok () => (Mutable.idsBetween s.offset r.watermark).mapM s.resolve

end Reader

/-- A segment and its readers in the order in which they were opened. -/
structure Session where
  segment : Mutable
  readers : List Reader

namespace Session

def new (options : Options) (generator : Nat → Bytes) : Session := ⟨.new options generator, []⟩

/-- Opens a reader, which is found by its place among the readers. -/
def openReader (s : Session) : Except Error Session :=
  s.segment.checkOpen.map fun () =>
    { segment := { s.segment with readers := s.segment.readers + 1 }
      readers := s.readers ++ [⟨s.segment.watermark, false⟩] }

/-- Marks a reader as closed and takes it from the count. -/
def release (s : Session) (i : Nat) : Session where
  segment := { s.segment with readers := s.segment.readers - 1 }
  readers := s.readers.modify i fun r => { r with isClosed := true }

/-- Closing succeeds once. -/
def closeReader (s : Session) (i : Nat) : Except Error Session :=
  match s.readers[i]? with
  | none => .error (.closed Reader.name)
  | some r => r.checkOpen.map fun () => s.release i

/-- A reader that is no longer held is closed, if it is not already. -/
def dropReader (s : Session) (i : Nat) : Session :=
  match s.closeReader i with
  | .ok s => s
  | .error _ => s

/-- No reader is open. -/
def isDrained (s : Session) : Bool := s.segment.readers = 0

/-- Waits until no reader is open or the time is over, and tells whether none is. While there is time
left, it may wake up so often. -/
def waitDrained (s : Session) : Nat → Bool
  | 0 => s.isDrained
  | wakes + 1 => if s.isDrained then true else s.waitDrained wakes

end Session

end InvertedIndex.Segment
