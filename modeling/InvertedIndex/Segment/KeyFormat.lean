import InvertedIndex.ByteMap
import InvertedIndex.Error

namespace InvertedIndex.Segment

/-- From keys to the ends of their postings. -/
abbrev KeyMap := ByteMap UInt64

/-- How the keys of a segment are kept as bytes. Which bytes are written for them is left open: they are
read back as the same keys, as long as a word of eight bytes can count them, and a reader may take or
refuse any other bytes. -/
structure KeyFormat where
  encode : KeyMap → Bytes
  decode? : Bytes → Option KeyMap
  decode?_encode (m : KeyMap) (h : (encode m).length < UInt64.size) : decode? (encode m) = some m

namespace KeyMap

/-- The keys that a reader finds in a region. -/
def ofRegion (decode? : Bytes → Option KeyMap) (region : Bytes) : Except Error KeyMap :=
  match decode? region with
  | some m => .ok m
  | none => .error (.format "invalid fields FST")

theorem ofRegion_encode (format : KeyFormat) {m : KeyMap}
    (h : (format.encode m).length < UInt64.size) :
    ofRegion format.decode? (format.encode m) = .ok m := by
  rw [ofRegion, format.decode?_encode m h]

theorem isFormatError_of_ofRegion {decode? : Bytes → Option KeyMap} {region : Bytes} {e : Error}
    (h : ofRegion decode? region = .error e) : e.isFormatError = true := by
  unfold ofRegion at h
  split at h
  · cases h
  · rw [← Except.error.inj h]
    rfl

end KeyMap

end InvertedIndex.Segment
