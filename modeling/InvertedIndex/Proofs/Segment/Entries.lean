import InvertedIndex.Proofs.Postings.Histories
import InvertedIndex.Proofs.Segment.Regions

namespace InvertedIndex.Segment.PostingsRegion

/-- Entries are written one behind the other, and their ends are told. -/
theorem writeAll_eq (region : Bytes) (ps : List Postings) :
    writeAll region ps = (region ++ encode ps, stops region.length ps) := by
  induction ps generalizing region with
  | nil => simp [writeAll, encode, stops]
  | cons p ps ih => simp [writeAll, write, ih, encode, stops]

theorem length_entry (p : Postings) : (entry p).length = p.encode.length + trailerSize := by
  simp [entry, trailerSize]

theorem lt_of_mem_stops {start stop : Nat} {ps : List Postings} (h : stop ∈ stops start ps) :
    start < stop := by
  induction ps generalizing start with
  | nil => cases h
  | cons p ps ih =>
    have hlength := length_entry p
    rw [trailerSize] at hlength
    rw [stops, List.mem_cons] at h
    cases h with
    | inl h => omega
    | inr h =>
      have hrest := ih h
      omega

theorem ascending_stops (start : Nat) (ps : List Postings) : (stops start ps).Pairwise (· < ·) := by
  induction ps generalizing start with
  | nil => exact List.Pairwise.nil
  | cons p ps ih => exact List.pairwise_cons.mpr ⟨fun stop h => lt_of_mem_stops h, ih _⟩

/-- Lists that were made are read from where their entries end, behind anything and before anything. -/
theorem read_of_writeAll (front back : Bytes) {ps : List Postings} (h : ∀ p ∈ ps, p.Canonical)
    {k stop : Nat} {p : Postings} (hp : ps[k]? = some p)
    (hstop : (writeAll front ps).2[k]? = some stop) :
    read ((writeAll front ps).1 ++ back) stop = .ok p := by
  rw [writeAll_eq] at hstop ⊢
  have hzip : (p, stop) ∈ ps.zip (stops front.length ps) :=
    List.mem_of_getElem? (List.getElem?_zip_eq_some.mpr ⟨hp, hstop⟩)
  exact (read_of_mem_zip h front back hzip).2

/-- A payload of this size ends in front of size and magic word, and these end at `stop`. -/
structure Addresses (region : Bytes) (stop size : Nat) : Prop where
  front : trailerSize ≤ stop
  inside : stop ≤ region.length
  ofMagic : region.slice (stop - 8) 8 = Bytes.ofBE 8 magic
  ofSize : (region.slice (stop - trailerSize) 8).toBE = size
  room : size ≤ stop - trailerSize

variable {region : Bytes} {stop size : Nat}

theorem toBE_eq_iff {bs : Bytes} {x : Nat} (hlength : bs.length = 8) (hx : x < Bytes.limit 8) :
    bs.toBE = x ↔ bs = Bytes.ofBE 8 x := by
  constructor
  · intro h
    have hreverse : bs.reverse = (Bytes.ofBE 8 x).reverse := by
      apply Bytes.toLE_injective (by simp [hlength])
      exact h.trans (Bytes.toBE_ofBE_of_lt hx).symm
    exact List.reverse_injective hreverse
  · rintro rfl
    exact Bytes.toBE_ofBE_of_lt hx

theorem magic_iff (hfront : trailerSize ≤ stop) (hinside : stop ≤ region.length) :
    (region.slice (stop - 8) 8).toBE = magic ↔ region.slice (stop - 8) 8 = Bytes.ofBE 8 magic := by
  apply toBE_eq_iff _ (by decide)
  rw [trailerSize] at hfront
  rw [Bytes.slice, List.length_take, List.length_drop]
  omega

theorem Addresses.read_eq (h : Addresses region stop size) :
    read region stop = Postings.decode (region.slice (stop - trailerSize - size) size) := by
  obtain ⟨hfront, hinside, hmagic, hsize, hroom⟩ := h
  have hbounds : ¬ (stop < trailerSize ∨ region.length < stop) := by omega
  rw [read, if_neg hbounds]
  dsimp only
  rw [(magic_iff hfront hinside).mpr hmagic, hsize, if_neg (not_not.mpr rfl),
    if_neg (Nat.not_lt_of_ge hroom)]

/-- Where no payload ends there is a format error. -/
theorem read_of_not_addresses (h : ∀ size, ¬ Addresses region stop size) :
    ∃ reason, read region stop = .error (.format reason) := by
  rw [read]
  split
  · exact ⟨_, rfl⟩
  · next hbounds =>
    dsimp only
    split
    · exact ⟨_, rfl⟩
    · next hmagic =>
      split
      · exact ⟨_, rfl⟩
      · next hroom =>
        have hfront : trailerSize ≤ stop := by omega
        have hinside : stop ≤ region.length := by omega
        have hword := (magic_iff hfront hinside).mp (not_not.mp hmagic)
        exact absurd ⟨hfront, hinside, hword, rfl, Nat.not_lt.mp hroom⟩ (h _)

/-- The payload stands in the region in full, and nothing else of the region is decoded. -/
theorem Addresses.read_payload (h : Addresses region stop size) :
    ∃ front payload back : Bytes, region = front ++ payload ++ back ∧
      front.length = stop - trailerSize - size ∧ payload.length = size ∧
      read region stop = Postings.decode payload := by
  have hinside := h.inside
  have hroom := h.room
  refine ⟨region.take (stop - trailerSize - size), region.slice (stop - trailerSize - size) size,
    region.drop (stop - trailerSize - size + size), ?_, ?_, ?_, h.read_eq⟩
  · rw [Bytes.slice, List.append_assoc, ← List.drop_drop, List.take_append_drop,
      List.take_append_drop]
  · rw [List.length_take]
    omega
  · rw [Bytes.slice, List.length_take, List.length_drop]
    omega

/-- A difference that is no number does not exist. -/
def sub? (x y : Nat) : Option Nat := if y ≤ x then some (x - y) else none

/-- The bytes between two places, which have to be in order and inside. -/
def slice? (bs : Bytes) (lo hi : Nat) : Option Bytes :=
  if lo ≤ hi ∧ hi ≤ bs.length then some (bs.slice lo (hi - lo)) else none

/-- Reads an entry by differences and by parts of the region that have to exist. -/
def checkedRead (region : Bytes) (stop : Nat) : Option (Except Error Postings) :=
  if stop < trailerSize ∨ region.length < stop then
    some (.error (.format ("postings offset " ++ toString stop ++ " outside region of "
      ++ toString region.length ++ " bytes")))
  else do
    let magicStart ← sub? stop 8
    let found ← slice? region magicStart stop
    if found.toBE ≠ magic then
      some (.error (.format ("bad postings magic " ++ hexText found.toBE ++ " at offset "
        ++ toString stop)))
    else
      let payloadEnd ← sub? stop trailerSize
      let size ← slice? region payloadEnd magicStart
      if payloadEnd < size.toBE then
        some (.error (.format ("postings payload of " ++ toString size.toBE
          ++ " bytes overruns region at offset " ++ toString stop)))
      else
        let payloadStart ← sub? payloadEnd size.toBE
        let payload ← slice? region payloadStart payloadEnd
        some (Postings.decode payload)

theorem sub?_of_le {x y : Nat} (h : y ≤ x) : sub? x y = some (x - y) := if_pos h

theorem slice?_of_le {bs : Bytes} {lo hi n : Nat} (h : lo + n = hi) (hhi : hi ≤ bs.length) :
    slice? bs lo hi = some (bs.slice lo n) := by
  have hsize : hi - lo = n := by omega
  rw [slice?, if_pos (by omega), hsize]

/-- All that is looked at stands inside of the region. -/
theorem checkedRead_eq (region : Bytes) (stop : Nat) :
    checkedRead region stop = some (read region stop) := by
  have htrailer : trailerSize = 16 := rfl
  rw [checkedRead, read]
  by_cases hbounds : stop < trailerSize ∨ region.length < stop
  · rw [if_pos hbounds, if_pos hbounds]
  · have hfound : slice? region (stop - 8) stop = some (region.slice (stop - 8) 8) :=
      slice?_of_le (by omega) (by omega)
    have hsize : slice? region (stop - trailerSize) (stop - 8) =
        some (region.slice (stop - trailerSize) 8) := slice?_of_le (by omega) (by omega)
    rw [if_neg hbounds, if_neg hbounds, sub?_of_le (by omega), sub?_of_le (by omega)]
    simp only [Option.bind_eq_bind, Option.bind_some, hfound, hsize]
    split
    · rfl
    · split
      · rfl
      · next hroom =>
        have hle := Nat.not_lt.mp hroom
        rw [sub?_of_le hle, Option.bind_some, slice?_of_le (Nat.sub_add_cancel hle) (by omega)]
        rfl

/-- Entries end one behind the other, and each list that was written is read from where its entry ends,
whatever stands before the entries and behind them. From any region and place either a format error is
read or the payload that is addressed there, in full and by itself, and nothing that is looked at on the
way stands outside of the region. -/
theorem entries_are_addressed :
    (∀ (front back : Bytes) (ps : List Postings.Made),
      let (written, stops) := writeAll front (ps.map Postings.Made.list)
      stops.length = ps.length ∧ stops.Pairwise (· < ·) ∧
        ∀ (k : Nat) (p : Postings.Made) (stop : Nat), ps[k]? = some p → stops[k]? = some stop →
          read (written ++ back) stop = .ok p.list) ∧
    ∀ (region : Bytes) (stop : UInt64),
      ((∀ size, ¬ Addresses region stop.toNat size) →
        ∃ reason, read region stop.toNat = .error (.format reason)) ∧
      (∀ size, Addresses region stop.toNat size →
        ∃ front payload back : Bytes, region = front ++ payload ++ back ∧
          front.length = stop.toNat - trailerSize - size ∧ payload.length = size ∧
          read region stop.toNat = Postings.decode payload) ∧
      checkedRead region stop.toNat = some (read region stop.toNat) := by
  constructor
  · intro front back ps
    have hcanonical : ∀ p ∈ ps.map Postings.Made.list, p.Canonical := by
      intro p hp
      obtain ⟨made, -, rfl⟩ := List.mem_map.mp hp
      exact made.canonical
    refine ⟨?_, ?_, fun k p stop hp hstop => ?_⟩
    · rw [writeAll_eq, length_stops, List.length_map]
    · rw [writeAll_eq]
      exact ascending_stops _ _
    · apply read_of_writeAll front back hcanonical _ hstop
      rw [List.getElem?_map, hp]
      rfl
  · intro region stop
    exact ⟨read_of_not_addresses, fun size h => h.read_payload, checkedRead_eq region stop.toNat⟩

end InvertedIndex.Segment.PostingsRegion
