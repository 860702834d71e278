import InvertedIndex.Segment.KeyFormat
import InvertedIndex.Wire

namespace InvertedIndex.Segment.KeyFormat

namespace Listed

/-- What stands in front of the keys. -/
def header : Bytes := Bytes.ofText "Keys with ends of their postings"

def encodeEntries (entries : List (Bytes × UInt64)) : Bytes :=
  entries.flatMap fun (key, stop) => Wire.string key ++ Wire.word64 stop

def encode (m : KeyMap) : Bytes := header ++ Wire.length m.size ++ encodeEntries m.entries

def entries? : Nat → Bytes → Option (List (Bytes × UInt64))
  | 0, bs => if bs.isEmpty then some [] else none
  | n + 1, bs => do
    let (key, bs) ← Wire.string? bs
    let (stop, bs) ← Wire.word64? bs
    let rest ← entries? n bs
    some ((key, stop) :: rest)

/-- Each key comes before the next one. -/
def isAscending : List Bytes → Bool
  | x :: y :: rest => x < y && isAscending (y :: rest)
  | _ => true

theorem isAscending_iff {xs : List Bytes} : isAscending xs = true ↔ Bytes.Ascending xs := by
  induction xs with
  | nil => exact iff_of_true rfl List.Pairwise.nil
  | cons x ys ih =>
    cases ys with
    | nil => exact iff_of_true rfl (List.pairwise_singleton _ _)
    | cons y rest =>
      have hcons : Bytes.Ascending (x :: y :: rest) ↔
          (∀ z ∈ y :: rest, x < z) ∧ Bytes.Ascending (y :: rest) := List.pairwise_cons
      rw [isAscending, Bool.and_eq_true, decide_eq_true_eq, ih, hcons]
      constructor
      · rintro ⟨hxy, hrest⟩
        refine ⟨fun z hz => ?_, hrest⟩
        rcases List.mem_cons.mp hz with rfl | hz
        · exact hxy
        · exact List.lt_trans hxy ((List.pairwise_cons.mp hrest).1 z hz)
      · rintro ⟨hx, hrest⟩
        exact ⟨hx y List.mem_cons_self, hrest⟩

def ofEntries? (entries : List (Bytes × UInt64)) : Option KeyMap :=
  if h : isAscending (entries.map Prod.fst) = true then some ⟨entries, isAscending_iff.mp h⟩ else none

def decode? (bs : Bytes) : Option KeyMap := do
  let (front, bs) ← bs.split? header.length
  if front ≠ header then none
  let (count, bs) ← bs.word? 8
  let entries ← entries? count bs
  ofEntries? entries

theorem entries?_encodeEntries {entries : List (Bytes × UInt64)}
    (h : (encodeEntries entries).length < UInt64.size) :
    entries? entries.length (encodeEntries entries) = some entries := by
  induction entries with
  | nil => rfl
  | cons e entries ih =>
    obtain ⟨key, stop⟩ := e
    have hparts : encodeEntries ((key, stop) :: entries) =
        Wire.string key ++ (Wire.word64 stop ++ encodeEntries entries) := by
      simp [encodeEntries]
    have hkey : key.length < UInt64.size := by
      rw [hparts, List.length_append, Wire.string, List.length_append] at h
      omega
    have hrest : (encodeEntries entries).length < UInt64.size := by
      rw [hparts, List.length_append, List.length_append] at h
      omega
    rw [hparts, List.length_cons, entries?, Wire.string?_append hkey]
    simp [Wire.word64?_append, ih hrest]

theorem length_le_encodeEntries (entries : List (Bytes × UInt64)) :
    entries.length ≤ (encodeEntries entries).length := by
  induction entries with
  | nil => exact Nat.le_refl 0
  | cons e entries ih =>
    have hword : (Wire.word64 e.2).length = 8 := Bytes.length_ofLE 8 _
    rw [encodeEntries] at ih ⊢
    rw [List.flatMap_cons, List.length_append, List.length_append, List.length_cons]
    omega

/-- The number of keys fits its word, as every key takes bytes. -/
theorem decode?_encode (m : KeyMap) (h : (encode m).length < UInt64.size) :
    decode? (encode m) = some m := by
  have hentries : (encodeEntries m.entries).length < UInt64.size := by
    rw [encode, List.length_append] at h
    omega
  have hsize : m.size < UInt64.size := Nat.lt_of_le_of_lt (length_le_encodeEntries m.entries) hentries
  have hcount : Bytes.word? 8 (Wire.length m.size ++ encodeEntries m.entries) =
      some (m.size, encodeEntries m.entries) := Bytes.word?_ofLE_append hsize _
  have hread : entries? m.size (encodeEntries m.entries) = some m.entries :=
    entries?_encodeEntries hentries
  have hmap : ofEntries? m.entries = some m := by
    rw [ofEntries?, dif_pos (isAscending_iff.mpr m.ascending)]
  rw [decode?, encode, List.append_assoc, Bytes.split?_append]
  simp [hcount, hread, hmap]

end Listed

/-- The keys one after the other, the plainest of formats. -/
def listed : KeyFormat := ⟨Listed.encode, Listed.decode?, Listed.decode?_encode⟩

end InvertedIndex.Segment.KeyFormat
