import InvertedIndex.Proofs.Segment.Bounds

namespace InvertedIndex.Segment

namespace DocsRegion

/-- Adding leaves both regions as they are in front of what is added. -/
theorem foldl_add (r : DocsRegion) (ds : List Document) :
    ds.foldl add r = ⟨r.data ++ ds.flatMap Document.record,
      r.index ++ (places r.data.length ds).flatMap (Bytes.ofBE indexWordSize)⟩ := by
  induction ds generalizing r with
  | nil => simp [places]
  | cons d ds ih =>
    rw [List.foldl_cons, ih]
    simp [add, places]

/-- Regions that grow document by document are those that are written at once. -/
theorem foldl_add_empty (base : PostingsId) (ds : List Document) :
    ds.foldl add (empty base) = ofDocuments base ds := by
  rw [foldl_add]
  simp [empty, ofDocuments]

theorem length_index (base : PostingsId) (ds : List Document) :
    (ofDocuments base ds).index.length = indexWordSize + indexWordSize * ds.length := by
  rw [ofDocuments, Bytes.length_flatMap_of_length (Bytes.length_ofBE indexWordSize),
    List.length_cons, length_places, Nat.mul_succ, Nat.add_comm]

theorem two_mul_length_le_data (base : PostingsId) (ds : List Document) :
    2 * ds.length ≤ (ofDocuments base ds).data.length := by
  have hrecords : 2 * ds.length ≤ (ds.flatMap Document.record).length := by
    induction ds with
    | nil => exact Nat.le_refl 0
    | cons d ds ih =>
      have htwo := Document.two_le_length_record d
      rw [List.flatMap_cons, List.length_append, List.length_cons]
      omega
  exact hrecords

end DocsRegion

namespace DocsIndex

open DocsRegion (ofDocuments)

variable {base : PostingsId} {ds : List Document}

theorem firstNumber_ofDocuments (base : PostingsId) (ds : List Document) :
    firstNumber (ofDocuments base ds).index = base.toNat := by
  have hbase : base.toNat < Bytes.limit indexWordSize :=
    Nat.lt_trans base.toNat_lt_size (by decide)
  rw [firstNumber, ofDocuments, List.flatMap_cons,
    List.take_left' (Bytes.length_ofBE indexWordSize base.toNat), Bytes.toBE_ofBE_of_lt hbase]

theorem placeCount_ofDocuments (base : PostingsId) (ds : List Document) :
    placeCount (ofDocuments base ds).index = ds.length := by
  rw [placeCount, DocsRegion.length_index, Nat.add_sub_cancel_left,
    Nat.mul_div_cancel_left _ (by decide)]

theorem isWhole_ofDocuments (base : PostingsId) (ds : List Document) :
    IsWhole (ofDocuments base ds).index := by
  rw [IsWhole, placeCount_ofDocuments, DocsRegion.length_index]

theorem ofRegions_of_beyond (hbeyond : PostingsId.last.toNat < base.toNat + ds.length)
    (hfits : base.toNat + ds.length < UInt64.size) :
    ∃ reason, ofRegions (ofDocuments base ds).data (ofDocuments base ds).index =
      .error (.format reason) := by
  have hend : endNumber (ofDocuments base ds).index = base.toNat + ds.length := by
    rw [endNumber, firstNumber_ofDocuments, placeCount_ofDocuments]
  rw [ofRegions, bounds_of_isWhole (isWhole_ofDocuments base ds), hend, if_neg (by omega),
    if_pos hbeyond]
  exact ⟨_, rfl⟩

theorem get_of_outside {x : DocsIndex} {id : PostingsId}
    (h : ¬ (x.base.toNat ≤ id.toNat ∧ id.toNat < x.limit.toNat)) :
    x.get id = .error (.unknownPostingsId id) := by
  have hnot : x.contains id = false := by
    rw [Bool.eq_false_iff]
    intro hcontains
    rw [contains, Bool.and_eq_true, decide_eq_true_iff, decide_eq_true_iff,
      UInt32.le_iff_toNat_le, UInt32.lt_iff_toNat_lt] at hcontains
    exact h hcontains
  rw [get, hnot]
  rfl

/-- Documents that are added one by one are found by their numbers, each as it was, and no other number
finds any, as long as all of them have numbers; if they have not, the index is refused for its format. A
place is a word of eight bytes, so there must not be more records than it can tell. -/
theorem added_documents_are_found (base : PostingsId) (ds : List Document)
    (hsize : (ds.foldl DocsRegion.add (.empty base)).data.length < UInt64.size) :
    let r := ds.foldl DocsRegion.add (.empty base)
    (base.toNat + ds.length ≤ PostingsId.last.toNat →
      ∃ x, ofRegions r.data r.index = .ok x ∧ x.base = base ∧
        x.limit.toNat = base.toNat + ds.length ∧
        ((∀ d ∈ ds, d.id ≠ some []) →
          ∀ i d, ds[i]? = some d → x.get (.ofNat (base.toNat + i)) = .ok d) ∧
        ∀ id : PostingsId, (∀ i < ds.length, id.toNat ≠ base.toNat + i) →
          x.get id = .error (.unknownPostingsId id)) ∧
    (PostingsId.last.toNat < base.toNat + ds.length →
      ∃ reason, ofRegions r.data r.index = .error (.format reason)) := by
  rw [DocsRegion.foldl_add_empty] at hsize ⊢
  refine ⟨fun hroom => ?_, fun hbeyond => ?_⟩
  · have hlimit := toNat_number hroom
    refine ⟨_, ofRegions_ofDocuments hroom, rfl, hlimit, fun hid i d hd => ?_, fun id hid => ?_⟩
    · have hi := (List.getElem?_eq_some_iff.mp hd).1
      have hnumber : (UInt32.ofNat (base.toNat + i)).toNat = base.toNat + i :=
        toNat_number (by omega)
      apply get_ofDocuments hlimit hid hsize
      · rw [UInt32.le_iff_toNat_le, hnumber]
        exact Nat.le_add_right _ _
      · rwa [hnumber, Nat.add_sub_cancel_left]
    · apply get_of_outside
      intro hinside
      obtain ⟨hle, hlt⟩ := hinside
      dsimp only at hle hlt
      rw [hlimit] at hlt
      exact hid (id.toNat - base.toNat) (by omega) (Nat.add_sub_cancel' hle).symm
  · have hcount := DocsRegion.two_mul_length_le_data base ds
    have hbase := base.toNat_lt
    have hword : UInt64.size = 2 ^ 64 := rfl
    exact ofRegions_of_beyond hbeyond (by omega)

/-- Two documents take the last numbers that there are, and a third one has none. -/
theorem added_documents_are_found_last :
    ∃ (d e : Document) (x : DocsIndex) (r : DocsRegion), d = ⟨none, []⟩ ∧
      e = ⟨some [120], [⟨[98], [1]⟩, ⟨[97], []⟩]⟩ ∧
      r = (DocsRegion.empty 0xFFFFFFFD |>.add d |>.add e) ∧ ofRegions r.data r.index = .ok x ∧
      x.get 0xFFFFFFFD = .ok d ∧ x.get 0xFFFFFFFE = .ok e ∧
      x.get 0xFFFFFFFF = .error (.unknownPostingsId 0xFFFFFFFF) ∧
      ∃ reason, ofRegions (r.add d).data (r.add d).index = .error (.format reason) := by
  obtain ⟨d, hd⟩ : ∃ d : Document, d = ⟨none, []⟩ := ⟨_, rfl⟩
  obtain ⟨e, he⟩ : ∃ e : Document, e = ⟨some [120], [⟨[98], [1]⟩, ⟨[97], []⟩]⟩ := ⟨_, rfl⟩
  have htwo : ([d, e].foldl DocsRegion.add (.empty 0xFFFFFFFD)).data.length < UInt64.size := by
    subst hd he
    decide +kernel
  have hthree : ([d, e, d].foldl DocsRegion.add (.empty 0xFFFFFFFD)).data.length < UInt64.size := by
    subst hd he
    decide +kernel
  have hid : ∀ f ∈ [d, e], f.id ≠ some [] := by
    subst hd he
    decide
  have hroom : (0xFFFFFFFD + 2 : Nat) ≤ 0xFFFFFFFF := by decide
  have hbeyond : 0xFFFFFFFF < (0xFFFFFFFD + 3 : Nat) := by decide
  have hother : ∀ i < 2, (0xFFFFFFFF : Nat) ≠ 0xFFFFFFFD + i := by decide
  obtain ⟨x, hx, -, -, hget, hunknown⟩ := (added_documents_are_found 0xFFFFFFFD [d, e] htwo).1 hroom
  obtain ⟨reason, hreason⟩ := (added_documents_are_found 0xFFFFFFFD [d, e, d] hthree).2 hbeyond
  exact ⟨d, e, x, _, hd, he, rfl, hx, hget hid 0 d rfl, hget hid 1 e rfl,
    hunknown 0xFFFFFFFF hother, reason, hreason⟩

end DocsIndex

end InvertedIndex.Segment
