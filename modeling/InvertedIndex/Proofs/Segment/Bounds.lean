import InvertedIndex.Proofs.Segment.Regions
import InvertedIndex.Proofs.Segment.Validation
import InvertedIndex.Segment.KeyFormat.Listed
import InvertedIndex.Segment.Immutable

namespace InvertedIndex.Segment.DocsIndex

/-- The number that an index starts with. -/
def firstNumber (index : Bytes) : Nat := Bytes.toBE (index.take indexWordSize)

/-- How many whole words stand behind it. -/
def placeCount (index : Bytes) : Nat := (index.length - indexWordSize) / indexWordSize

/-- The number behind the last one that an index covers. -/
def endNumber (index : Bytes) : Nat := firstNumber index + placeCount index

/-- A first number and places, and no part of one. -/
def IsWhole (index : Bytes) : Prop := index.length = indexWordSize + indexWordSize * placeCount index

section

variable {data index : Bytes} {x : DocsIndex}

theorem bounds_of_not_isWhole (h : ¬ IsWhole index) :
    ∃ reason, bounds index = .error (.format reason) := by
  unfold bounds
  rw [Bytes.split?_eq]
  by_cases hheader : indexWordSize ≤ index.length
  · have hpart : (index.drop indexWordSize).length % indexWordSize ≠ 0 := by
      intro hwhole
      apply h
      rw [List.length_drop] at hwhole
      rw [IsWhole, placeCount, Nat.mul_div_cancel' (Nat.dvd_of_mod_eq_zero hwhole)]
      omega
    rw [if_pos hheader]
    dsimp only
    rw [if_pos hpart]
    exact ⟨_, rfl⟩
  · rw [if_neg hheader]
    exact ⟨_, rfl⟩

/-- An index of whole words covers the numbers from its first one on, unless their end is too large. -/
theorem bounds_of_isWhole (h : IsWhole index) :
    bounds index =
      if UInt64.size ≤ endNumber index then .error .overflow
      else if PostingsId.last.toNat < endNumber index then
        .error (.format ("documents index covers postings IDs up to " ++ toString (endNumber index)))
      else .ok (.ofNat (firstNumber index), .ofNat (endNumber index)) := by
  have hlength : (index.drop indexWordSize).length = indexWordSize * placeCount index := by
    rw [List.length_drop, h]
    omega
  have hheader : indexWordSize ≤ index.length := by
    rw [h]
    exact Nat.le_add_right _ _
  have hwhole : ¬ (index.drop indexWordSize).length % indexWordSize ≠ 0 := by
    rw [hlength, Nat.mul_mod_right]
    exact fun hne => hne rfl
  have hcount : (index.drop indexWordSize).length / indexWordSize = placeCount index := by
    rw [List.length_drop, placeCount]
  rw [bounds, Bytes.split?_eq, if_pos hheader]
  dsimp only
  rw [if_neg hwhole, hcount]
  rfl

/-- An index is taken just if it is whole and all it covers are numbers. -/
theorem ofRegions_eq_ok_iff :
    ofRegions data index = .ok x ↔ IsWhole index ∧ endNumber index ≤ PostingsId.last.toNat ∧
      x = ⟨data, index, .ofNat (firstNumber index), .ofNat (endNumber index)⟩ := by
  by_cases hwhole : IsWhole index
  · have hsizes : PostingsId.last.toNat < UInt64.size := by decide
    rw [ofRegions, bounds_of_isWhole hwhole]
    by_cases hroom : endNumber index ≤ PostingsId.last.toNat
    · rw [if_neg (by omega), if_neg (by omega)]
      simp [Except.map, hwhole, hroom, eq_comm]
    · split
      · simp [Except.map, hroom]
      · rw [if_pos (by omega)]
        simp [Except.map, hroom]
  · obtain ⟨reason, hreason⟩ := bounds_of_not_isWhole hwhole
    rw [ofRegions, hreason]
    simp [Except.map, hwhole]

/-- The sum of the first number and the number of documents is all that can run over. -/
theorem ofRegions_eq_overflow_iff :
    ofRegions data index = .error .overflow ↔ IsWhole index ∧ UInt64.size ≤ endNumber index := by
  by_cases hwhole : IsWhole index
  · rw [ofRegions, bounds_of_isWhole hwhole]
    split
    · next hover => simp [Except.map, hwhole, hover]
    · next hfits => split <;> simp [Except.map, hfits]
  · obtain ⟨reason, hreason⟩ := bounds_of_not_isWhole hwhole
    rw [ofRegions, hreason]
    simp [Except.map, hwhole]

theorem ofRegions_eq_error {e : Error} (h : ofRegions data index = .error e) :
    e.isFormatError = true ∨ e = .overflow := by
  have hbounds := Results.map_eq_error h
  by_cases hwhole : IsWhole index
  · rw [bounds_of_isWhole hwhole] at hbounds
    split at hbounds
    · exact .inr (Except.error.inj hbounds).symm
    · split at hbounds
      · rw [← Except.error.inj hbounds]
        exact .inl rfl
      · cases hbounds
  · obtain ⟨reason, hreason⟩ := bounds_of_not_isWhole hwhole
    rw [hreason] at hbounds
    rw [← Except.error.inj hbounds]
    exact .inl rfl

/-- Every number that an index covers has a place inside it, so no read goes past its end. -/
theorem place_inside (h : ofRegions data index = .ok x) {id : PostingsId}
    (hid : x.contains id = true) :
    x.base ≤ id ∧ ∃ front word back : Bytes, x.index = front ++ word ++ back ∧
      front.length = (id.toNat - x.base.toNat) * indexWordSize + indexWordSize ∧
      word.length = indexWordSize ∧ x.place id = word.toBE := by
  obtain ⟨hwhole, hroom, rfl⟩ := ofRegions_eq_ok_iff.mp h
  have hfirst : firstNumber index ≤ PostingsId.last.toNat :=
    Nat.le_trans (Nat.le_add_right _ _) hroom
  rw [contains, Bool.and_eq_true, decide_eq_true_iff, decide_eq_true_iff] at hid
  obtain ⟨hle, hlt⟩ := hid
  refine ⟨hle, ?_⟩
  rw [UInt32.le_iff_toNat_le, toNat_number hfirst] at hle
  rw [UInt32.lt_iff_toNat_lt, toNat_number hroom] at hlt
  have hplace : id.toNat - firstNumber index < placeCount index := by
    rw [endNumber] at hlt
    omega
  have hinside : (id.toNat - firstNumber index) * indexWordSize + indexWordSize + indexWordSize ≤
      index.length := by
    have hwords := Nat.mul_le_mul_left indexWordSize (Nat.succ_le_of_lt hplace)
    rw [Nat.mul_succ, Nat.mul_comm] at hwords
    rw [hwhole]
    omega
  dsimp only
  rw [toNat_number hfirst]
  generalize hstart : (id.toNat - firstNumber index) * indexWordSize + indexWordSize = start at hinside
  refine ⟨index.take start, index.slice start indexWordSize, index.drop (start + indexWordSize),
    ?_, ?_, ?_, ?_⟩
  · rw [Bytes.slice, List.append_assoc, ← List.drop_drop, List.take_append_drop,
      List.take_append_drop]
  · rw [List.length_take]
    omega
  · rw [Bytes.slice, List.length_take, List.length_drop]
    omega
  · simp only [place, toNat_number hfirst, hstart]

end

end InvertedIndex.Segment.DocsIndex

namespace InvertedIndex.Segment.Contents

open DocsIndex (firstNumber placeCount endNumber IsWhole)

section

variable {decode? : Bytes → Option KeyMap} {d : Data} {r : Regions} {e : Error}

theorem ofRegions_of_error (h : DocsIndex.ofRegions r.docsData r.docsIndex = .error e) :
    ofRegions decode? r = .error e := by
  rw [ofRegions, h]
  rfl

/-- Once the index is taken, regions are opened or refused for their format. -/
theorem ofRegions_of_docs {docs : DocsIndex}
    (h : DocsIndex.ofRegions r.docsData r.docsIndex = .ok docs) :
    (∃ keys, ofRegions decode? r = .ok ⟨r.metadata, docs, r.postings, keys⟩ ∧
      docs.limit.toNat - docs.base.toNat = r.metadata.numDocs.toNat) ∨
    ∃ e, ofRegions decode? r = .error e ∧ e.isFormatError = true := by
  by_cases hcount : docs.limit.toNat - docs.base.toNat = r.metadata.numDocs.toNat
  · cases hkeys : KeyMap.ofRegion decode? r.keys with
    | error e =>
      refine .inr ⟨e, ?_, KeyMap.isFormatError_of_ofRegion hkeys⟩
      simp [ofRegions, h, hcount, hkeys, bind, Except.bind]
    | ok keys =>
      refine .inl ⟨keys, ?_, hcount⟩
      simp [ofRegions, h, hcount, hkeys, bind, Except.bind, pure, Except.pure]
  · refine .inr ⟨.format ("documents index holds "
      ++ toString (docs.limit.toNat - docs.base.toNat) ++ " documents, metadata says "
      ++ toString r.metadata.numDocs.toNat), ?_, rfl⟩
    simp [ofRegions, h, hcount, bind, Except.bind, throw, throwThe, MonadExceptOf.throw]

theorem ofRegions_eq_ok {c : Contents} (h : ofRegions decode? r = .ok c) :
    DocsIndex.ofRegions r.docsData r.docsIndex = .ok c.docs ∧ c.metadata = r.metadata ∧
      c.size = r.metadata.numDocs.toNat := by
  cases hdocs : DocsIndex.ofRegions r.docsData r.docsIndex with
  | error e =>
    rw [ofRegions_of_error hdocs] at h
    cases h
  | ok docs =>
    rcases ofRegions_of_docs hdocs with ⟨keys, hkeys, hcount⟩ | ⟨e, he, -⟩
    · rw [hkeys] at h
      cases h
      exact ⟨rfl, rfl, hcount⟩
    · rw [he] at h
      cases h

theorem ofRegions_eq_overflow_iff :
    ofRegions decode? r = .error .overflow ↔
      DocsIndex.ofRegions r.docsData r.docsIndex = .error .overflow := by
  constructor
  · intro h
    cases hdocs : DocsIndex.ofRegions r.docsData r.docsIndex with
    | error e =>
      rw [ofRegions_of_error hdocs] at h
      rw [Except.error.inj h]
    | ok docs =>
      rcases ofRegions_of_docs hdocs with ⟨keys, hkeys, -⟩ | ⟨e, he, hformat⟩
      · rw [hkeys] at h
        cases h
      · rw [he] at h
        rw [Except.error.inj h] at hformat
        cases hformat
  · exact ofRegions_of_error

theorem openData_of_refused (h : d.validate = .error e) : Immutable.openData decode? d = .error e := by
  rw [Immutable.openData, ofData, h]
  rfl

theorem openData_of_validate (h : d.validate = .ok r) :
    Immutable.openData decode? d = (ofRegions decode? r).map fun c => ⟨some c⟩ := by
  rw [Immutable.openData, ofData, h]

theorem openData_eq_ok {s : Immutable} (h : Immutable.openData decode? d = .ok s) :
    ∃ r c, d.validate = .ok r ∧ ofRegions decode? r = .ok c ∧ s = ⟨some c⟩ := by
  cases hvalid : d.validate with
  | error e =>
    rw [openData_of_refused hvalid] at h
    cases h
  | ok r =>
    rw [openData_of_validate hvalid] at h
    obtain ⟨c, hc, rfl⟩ := Results.map_eq_ok h
    exact ⟨r, c, rfl, hc, rfl⟩

/-- Opening overflows just if the end of the numbers does not fit a word of eight bytes. -/
theorem openData_eq_overflow_iff :
    Immutable.openData decode? d = .error .overflow ↔
      ∃ r, d.validate = .ok r ∧ IsWhole r.docsIndex ∧ UInt64.size ≤ endNumber r.docsIndex := by
  constructor
  · intro h
    cases hvalid : d.validate with
    | error e =>
      rw [openData_of_refused hvalid] at h
      have hformat := Data.isFormatError_of_validate hvalid
      rw [Except.error.inj h] at hformat
      cases hformat
    | ok r =>
      rw [openData_of_validate hvalid] at h
      have hregions := ofRegions_eq_overflow_iff.mp (Results.map_eq_error h)
      exact ⟨r, rfl, DocsIndex.ofRegions_eq_overflow_iff.mp hregions⟩
  · intro h
    obtain ⟨r, hvalid, hover⟩ := h
    rw [openData_of_validate hvalid,
      ofRegions_of_error (DocsIndex.ofRegions_eq_overflow_iff.mpr hover)]
    rfl

/-- An index that covers more than there are numbers is refused for its format, unless the sum of its
first number and the number of its documents runs over. -/
theorem openData_of_beyond {index : Bytes} (hindex : d.docsIndex = some index)
    (hbeyond : PostingsId.last.toNat < endNumber index) (hfits : endNumber index < UInt64.size) :
    ∃ e, Immutable.openData decode? d = .error e ∧ e.isFormatError = true := by
  cases hvalid : d.validate with
  | error e =>
    exact ⟨e, openData_of_refused hvalid, Data.isFormatError_of_validate hvalid⟩
  | ok r =>
    have hsame := (Data.validate_eq_ok_iff.mp hvalid).1.docsIndex
    rw [hindex] at hsame
    cases hsame
    cases hdocs : DocsIndex.ofRegions r.docsData r.docsIndex with
    | error e =>
      refine ⟨e, ?_, ?_⟩
      · rw [openData_of_validate hvalid, ofRegions_of_error hdocs]
        rfl
      · cases DocsIndex.ofRegions_eq_error hdocs with
        | inl hformat => exact hformat
        | inr hover =>
          subst hover
          have hlarge := (DocsIndex.ofRegions_eq_overflow_iff.mp hdocs).2
          omega
    | ok docs =>
      have hroom := (DocsIndex.ofRegions_eq_ok_iff.mp hdocs).2.1
      omega

end

/-- A segment that can be opened covers the numbers that its index says, as many as its metadata say,
and all of them are numbers; an index that covers more is refused for its format. This holds as long as a
word of eight bytes can tell where the numbers end: where it cannot, the sum runs over, and only there.
A document is looked for at a place inside the index or not at all. -/
theorem open_covers_numbers (decode? : Bytes → Option KeyMap) (d : Data) :
    (∀ s, Immutable.openData decode? d = .ok s → ∃ c index, s.contents = some c ∧
      d.docsIndex = some index ∧ IsWhole index ∧
      firstNumber index + placeCount index ≤ PostingsId.last.toNat ∧
      c.base.toNat = firstNumber index ∧
      c.limit.toNat = firstNumber index + placeCount index ∧ c.base ≤ c.limit ∧
      c.size = placeCount index ∧ c.metadata.numDocs.toNat = placeCount index) ∧
    (∀ index, d.docsIndex = some index →
      PostingsId.last.toNat < firstNumber index + placeCount index →
      firstNumber index + placeCount index < UInt64.size →
      ∃ e, Immutable.openData decode? d = .error e ∧ e.isFormatError = true) ∧
    (Immutable.openData decode? d = .error .overflow ↔ ∃ r, d.validate = .ok r ∧ IsWhole r.docsIndex ∧
      UInt64.size ≤ firstNumber r.docsIndex + placeCount r.docsIndex) ∧
    ∀ (data index : Bytes) (x : DocsIndex) (id : PostingsId),
      DocsIndex.ofRegions data index = .ok x →
      if x.contains id then
        x.base ≤ id ∧ ∃ front word back : Bytes, index = front ++ word ++ back ∧
          front.length = (id.toNat - x.base.toNat) * indexWordSize + indexWordSize ∧
          word.length = indexWordSize ∧ x.place id = Bytes.toBE word
      else x.get id = .error (.unknownPostingsId id) := by
  refine ⟨?_, fun index => openData_of_beyond, openData_eq_overflow_iff, ?_⟩
  · intro s hs
    obtain ⟨r, c, hvalid, hc, rfl⟩ := openData_eq_ok hs
    obtain ⟨hdocs, hmetadata, hcount⟩ := ofRegions_eq_ok hc
    obtain ⟨hwhole, hroom, hx⟩ := DocsIndex.ofRegions_eq_ok_iff.mp hdocs
    have hbase : c.base.toNat = firstNumber r.docsIndex := by
      rw [base, hx]
      exact DocsIndex.toNat_number (Nat.le_trans (Nat.le_add_right _ _) hroom)
    have hlimit : c.limit.toNat = firstNumber r.docsIndex + placeCount r.docsIndex := by
      rw [limit, hx]
      exact DocsIndex.toNat_number hroom
    have hsize : c.size = placeCount r.docsIndex := by
      rw [size, hbase, hlimit, Nat.add_sub_cancel_left]
    refine ⟨c, r.docsIndex, rfl, (Data.validate_eq_ok_iff.mp hvalid).1.docsIndex, hwhole, hroom,
      hbase, hlimit, ?_, hsize, ?_⟩
    · rw [UInt32.le_iff_toNat_le, hbase, hlimit]
      exact Nat.le_add_right _ _
    · rw [hmetadata, ← hcount, hsize]
  · intro data index x id hx
    split
    · next hid =>
      have hinside := DocsIndex.place_inside hx hid
      have hindex : x.index = index := by
        rw [(DocsIndex.ofRegions_eq_ok_iff.mp hx).2.2]
      rwa [hindex] at hinside
    · next hid => simp [DocsIndex.get, hid]

/-- An index with one place, behind a first number that is the largest one a word can tell. -/
def overflowing : Data :=
  .ofRegions 1 [] (List.replicate 8 0xFF ++ List.replicate 8 0) [] (KeyFormat.listed.encode ∅)

/-- The index covers far more than there are numbers, and yet it is not refused for its format, however the
keys are read. -/
theorem open_covers_numbers_overflowing :
    ∃ index, overflowing.docsIndex = some index ∧
      PostingsId.last.toNat < firstNumber index + placeCount index ∧
      (∀ decode?, Immutable.openData decode? overflowing = .error .overflow) ∧
      Error.overflow.isFormatError = false := by
  refine ⟨_, rfl, by decide, fun decode? => ?_, rfl⟩
  exact openData_eq_overflow_iff.mpr ⟨_, Data.validate_ofRegions .., rfl, by decide⟩

end InvertedIndex.Segment.Contents
