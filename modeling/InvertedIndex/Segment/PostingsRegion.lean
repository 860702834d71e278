import InvertedIndex.Postings.Format

namespace InvertedIndex.Segment.PostingsRegion

/-- Ends every entry. -/
def magic : Nat := 0x746167646578504C

/-- Size and magic word together. -/
def trailerSize : Nat := 16

/-- A list, its size and a magic word. It is found by the place where it ends. -/
def entry (p : Postings) : Bytes :=
  let payload := p.encode
  payload ++ Bytes.ofBE 8 payload.length ++ Bytes.ofBE 8 magic

/-- Adds an entry to a region, and answers where it ends. -/
def write (region : Bytes) (p : Postings) : Bytes × Nat :=
  let written := region ++ entry p
  (written, written.length)

def writeAll (region : Bytes) : List Postings → Bytes × List Nat
  | [] => (region, [])
  | p :: ps =>
    let (region, stop) := write region p
    let (region, stops) := writeAll region ps
    (region, stop :: stops)

def encode (ps : List Postings) : Bytes := ps.flatMap entry

/-- The places where the entries end, of which the first one starts at `start`. -/
def stops (start : Nat) : List Postings → List Nat
  | [] => []
  | p :: ps =>
    let stop := start + (entry p).length
    stop :: stops stop ps

@[simp] theorem length_stops (start : Nat) (ps : List Postings) :
    (stops start ps).length = ps.length := by
  induction ps generalizing start with
  | nil => rfl
  | cons p ps ih => simp [stops, ih]

/-- Sixteen hexadecimal digits behind `0x`. -/
def hexText (x : Nat) : String :=
  let digits := Nat.toDigits 16 x
  "0x" ++ .ofList (List.replicate (16 - digits.length) '0' ++ digits)

/-- The entry that ends at `stop`. -/
def read (region : Bytes) (stop : Nat) : Except Error Postings :=
  if stop < trailerSize ∨ region.length < stop then
    .error (.format ("postings offset " ++ toString stop ++ " outside region of "
      ++ toString region.length ++ " bytes"))
  else
    let found := (region.slice (stop - 8) 8).toBE
    let size := (region.slice (stop - trailerSize) 8).toBE
    let payloadEnd := stop - trailerSize
    if found ≠ magic then
      .error (.format ("bad postings magic " ++ hexText found ++ " at offset " ++ toString stop))
    else if payloadEnd < size then
      .error (.format ("postings payload of " ++ toString size
        ++ " bytes overruns region at offset " ++ toString stop))
    else Postings.decode (region.slice (payloadEnd - size) size)

end InvertedIndex.Segment.PostingsRegion
