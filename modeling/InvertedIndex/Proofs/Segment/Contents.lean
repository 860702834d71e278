import InvertedIndex.Proofs.Segment.Key
import InvertedIndex.Proofs.Segment.Reading
import InvertedIndex.Segment.Immutable

namespace InvertedIndex.Segment.Contents

open Mutable (idAt idsBetween logOf termsOf hasTerm hasField)

/-- The numbers of the documents that have a property. -/
def numbersOf (base : PostingsId) (ds : List Document) (P : Document → Bool) : List PostingsId :=
  (ds.zipIdx.filter fun (d, _) => P d).map fun (_, i) => idAt base i

/-- The segment holds these documents, numbered from `base` on: it finds them by their numbers, and
its keys are those of their terms, each with the numbers of the documents that have the term. -/
structure Represents (c : Contents) (base : PostingsId) (ds : List Document) : Prop where
  base_eq : c.base = base
  limit_eq : c.limit.toNat = base.toNat + ds.length
  numDocs : c.metadata.numDocs.toNat = ds.length
  valid : ∀ d ∈ ds, d.validate = .ok ()
  identified : ∀ d ∈ ds, d.id.isSome = true
  document (i : Nat) (d : Document) : ds[i]? = some d → c.document (idAt base i) = .ok d
  mem_keys (f : Field) :
    c.keys.contains (Key.encode f.name f.value) = true ↔ ∃ id, (id, f) ∈ logOf base ds
  entry (key : Bytes) (stop : UInt64) : (key, stop) ∈ c.keys.entries →
    ∃ f, key = Key.encode f.name f.value ∧ (∃ id, (id, f) ∈ logOf base ds) ∧
      ∃ p, c.postingsAt stop = .ok p ∧ p.Proper ∧
        ∀ id, p.contains id = true ↔ (id, f) ∈ logOf base ds

variable {c : Contents} {base : PostingsId} {ds : List Document}

theorem mem_numbersOf {P : Document → Bool} {id : PostingsId} :
    id ∈ numbersOf base ds P ↔ ∃ i d, ds[i]? = some d ∧ id = idAt base i ∧ P d = true := by
  rw [numbersOf, List.mem_map]
  constructor
  · intro h
    obtain ⟨⟨d, i⟩, hmem, hid⟩ := h
    obtain ⟨hd, hP⟩ := List.mem_filter.mp hmem
    exact ⟨i, d, List.mem_zipIdx_iff_getElem?.mp hd, hid.symm, hP⟩
  · intro h
    obtain ⟨i, d, hd, hid, hP⟩ := h
    exact ⟨(d, i), List.mem_filter.mpr ⟨List.mem_zipIdx_iff_getElem?.mpr hd, hP⟩, hid.symm⟩

theorem ascending_numbersOf {limit : PostingsId} (h : limit.toNat = base.toNat + ds.length)
    (P : Document → Bool) : (numbersOf base ds P).Pairwise (· < ·) := by
  rw [numbersOf, List.pairwise_map]
  apply List.Pairwise.filter
  have hplaces : (ds.zipIdx.map Prod.snd).Pairwise (· < ·) := by
    rw [List.zipIdx_map_snd]
    exact List.pairwise_lt_range' 1
  refine (List.pairwise_map.mp hplaces).imp_of_mem ?_
  intro x y hx hy hxy
  have hx := (List.getElem?_eq_some_iff.mp (List.mem_zipIdx_iff_getElem?.mp hx)).1
  have hy := (List.getElem?_eq_some_iff.mp (List.mem_zipIdx_iff_getElem?.mp hy)).1
  rw [UInt32.lt_iff_toNat_lt, Mutable.toNat_idAt_of_lt h hx, Mutable.toNat_idAt_of_lt h hy]
  omega

/-- Postings that have just these numbers list them. -/
theorem toList_eq_numbersOf {limit : PostingsId} (h : limit.toNat = base.toNat + ds.length)
    {p : Postings} (hp : p.Proper) {P : Document → Bool}
    (hP : ∀ id, p.contains id = true ↔ ∃ i d, ds[i]? = some d ∧ id = idAt base i ∧ P d = true) :
    p.toList = numbersOf base ds P := by
  apply (Postings.ascending_toList hp).eq_of_mem_iff (ascending_numbersOf h P)
  intro id
  rw [Postings.mem_toList hp, mem_numbersOf, hP]

theorem mem_logOf_iff {field value : Bytes} {id : PostingsId} :
    (id, ⟨field, value⟩) ∈ logOf base ds ↔
      ∃ i d, ds[i]? = some d ∧ id = idAt base i ∧ hasTerm d field value = true := by
  rw [Mutable.mem_logOf]
  simp only [hasTerm, decide_eq_true_iff]

theorem exists_mem_logOf_iff {field value : Bytes} :
    (∃ id, (id, ⟨field, value⟩) ∈ logOf base ds) ↔ ds.any (hasTerm · field value) = true := by
  rw [List.any_eq_true]
  constructor
  · intro h
    obtain ⟨id, hid⟩ := h
    obtain ⟨i, d, hd, -, hterm⟩ := mem_logOf_iff.mp hid
    exact ⟨d, List.mem_of_getElem? hd, hterm⟩
  · intro h
    obtain ⟨d, hd, hterm⟩ := h
    obtain ⟨i, hi⟩ := List.mem_iff_getElem?.mp hd
    exact ⟨idAt base i, mem_logOf_iff.mpr ⟨i, d, hi, rfl, hterm⟩⟩

theorem not_isInfix_of_mem_logOf (hvalid : ∀ d ∈ ds, d.validate = .ok ()) {id : PostingsId}
    {f : Field} (hf : (id, f) ∈ logOf base ds) :
    ¬ Document.separatorBytes <:+: f.name ∧ ¬ Document.separatorBytes <:+: f.value := by
  obtain ⟨i, d, hd, -, hterm⟩ := Mutable.mem_logOf.mp hf
  have hplain := Mutable.isPlain_termsOf (hvalid d (List.mem_of_getElem? hd)) hterm
  exact ⟨Key.not_isInfix_of_isPlain hplain.1, Key.not_isInfix_of_isPlain hplain.2⟩

/-- The key of a term that is asked for belongs to no other term of the documents. -/
theorem Represents.entry_encode (h : c.Represents base ds) {field value : Bytes} {stop : UInt64}
    (hmem : (Key.encode field value, stop) ∈ c.keys.entries) :
    ∃ p, c.postingsAt stop = .ok p ∧ p.Proper ∧
      ∀ id, p.contains id = true ↔ (id, ⟨field, value⟩) ∈ logOf base ds := by
  obtain ⟨f, hkey, ⟨id, hid⟩, hp⟩ := h.entry _ stop hmem
  obtain ⟨hname, hvalue⟩ := not_isInfix_of_mem_logOf h.valid hid
  obtain ⟨rfl, rfl⟩ := Key.encode_inj hname hvalue hkey
  exact hp

theorem Represents.matchTerm_eq (h : c.Represents base ds) (field value : Bytes) :
    ∃ p, c.matchTerm field value = .ok p ∧ p.Proper ∧
      p.toList = numbersOf base ds (hasTerm · field value) := by
  rw [matchTerm]
  cases hget : c.keys.get? (Key.encode field value) with
  | none =>
    have hnot : ¬ ∃ id, (id, ⟨field, value⟩) ∈ logOf base ds := by
      rw [← h.mem_keys ⟨field, value⟩, ByteMap.contains, hget]
      simp
    refine ⟨∅, rfl, Postings.proper_empty, ?_⟩
    apply toList_eq_numbersOf h.limit_eq Postings.proper_empty
    intro id
    rw [← mem_logOf_iff, Postings.contains_empty]
    exact iff_of_false (by simp) fun hmem => hnot ⟨id, hmem⟩
  | some stop =>
    obtain ⟨p, hp, hproper, hcontains⟩ := h.entry_encode (ByteMap.mem_entries_iff.mpr hget)
    refine ⟨p, hp, hproper, ?_⟩
    apply toList_eq_numbersOf h.limit_eq hproper
    intro id
    rw [hcontains, mem_logOf_iff]

theorem Represents.containsTerm_eq (h : c.Represents base ds) (field value : Bytes) :
    c.containsTerm field value = ds.any (hasTerm · field value) := by
  have hkey := h.mem_keys ⟨field, value⟩
  rw [exists_mem_logOf_iff] at hkey
  rw [Bool.eq_iff_iff]
  exact hkey

theorem Represents.containsId_eq (h : c.Represents base ds) (id : Bytes) :
    c.containsId id = ds.any (fun d => d.id = some id) := by
  rw [containsId, h.containsTerm_eq, Bool.eq_iff_iff, List.any_eq_true, List.any_eq_true]
  refine exists_congr fun d => and_congr_right fun hd => ?_
  rw [Mutable.hasTerm_iff, decide_eq_true_iff]
  constructor
  · intro hterm
    cases hterm with
    | inl hfield =>
      obtain ⟨-, -, hfields⟩ := Document.validate_eq_ok.mp (h.valid d hd)
      obtain ⟨-, hne, -⟩ := Document.validateField_eq_ok.mp (hfields _ hfield)
      exact absurd rfl hne
    | inr hid => exact hid.2
  · intro hid
    exact .inr ⟨rfl, hid⟩

/-- The entries of a field that is asked for are those of its values. -/
theorem Represents.mem_entriesOf (h : c.Represents base ds) {field key : Bytes} {stop : UInt64}
    (hmem : (key, stop) ∈ c.entriesOf field) :
    ∃ value, key = Key.encode field value ∧ ¬ Document.separatorBytes <:+: field ∧
      ds.any (hasTerm · field value) = true := by
  obtain ⟨hentry, hin⟩ := List.mem_filter.mp hmem
  obtain ⟨f, rfl, ⟨id, hid⟩, -⟩ := h.entry key stop hentry
  obtain ⟨hname, hvalue⟩ := not_isInfix_of_mem_logOf h.valid hid
  obtain rfl := (Key.inField_encode hname hvalue).mp hin
  exact ⟨f.value, rfl, hname, exists_mem_logOf_iff.mp ⟨id, hid⟩⟩

theorem Represents.exists_entryOf (h : c.Represents base ds) {field value : Bytes}
    (hterm : ds.any (hasTerm · field value) = true) :
    ∃ stop, (Key.encode field value, stop) ∈ c.entriesOf field := by
  obtain ⟨id, hid⟩ := exists_mem_logOf_iff.mpr hterm
  have hkey := (h.mem_keys ⟨field, value⟩).mpr ⟨id, hid⟩
  obtain ⟨stop, hstop⟩ := Option.isSome_iff_exists.mp hkey
  obtain ⟨hname, hvalue⟩ := not_isInfix_of_mem_logOf h.valid hid
  refine ⟨stop, List.mem_filter.mpr ⟨ByteMap.mem_entries_iff.mpr hstop, ?_⟩⟩
  exact (Key.inField_encode hname hvalue).mpr rfl

/-- A union succeeds if all parts can be read. -/
theorem unionAt_eq {stops : List UInt64}
    (h : ∀ stop ∈ stops, ∃ p, c.postingsAt stop = .ok p ∧ p.Proper) {found : Postings}
    (hfound : found.Proper) :
    ∃ q, c.unionAt found stops = .ok q ∧ q.Proper ∧ ∀ id, q.contains id = true ↔
      found.contains id = true ∨
        ∃ stop ∈ stops, ∃ p, c.postingsAt stop = .ok p ∧ p.contains id = true := by
  induction stops generalizing found with
  | nil => exact ⟨found, rfl, hfound, by simp⟩
  | cons stop stops ih =>
    obtain ⟨p, hp, hproper⟩ := h stop (by simp)
    have hunion := Postings.proper_union hfound hproper.keyed
    obtain ⟨q, hq, hqproper, hcontains⟩ := ih (fun s hs => h s (by simp [hs])) hunion
    refine ⟨q, by rw [unionAt, hp]; exact hq, hqproper, ?_⟩
    intro id
    rw [hcontains, Postings.contains_union hfound.ordered hproper.ordered, Bool.or_eq_true,
      List.exists_mem_cons_iff]
    simp only [hp, Except.ok.injEq, exists_eq_left', or_assoc]

/-- The union over the values of a field that pass a test has the documents with such a value. -/
theorem Represents.unionAt_having (h : c.Represents base ds) {field : Bytes} {test : Bytes → Bool}
    {stops : List UInt64}
    (hstops : ∀ stop, stop ∈ stops ↔
      ∃ value, (Key.encode field value, stop) ∈ c.keys.entries ∧ test value = true)
    {P : Document → Bool}
    (hP : ∀ d, P d = true ↔ ∃ value, ⟨field, value⟩ ∈ termsOf d ∧ test value = true) :
    ∃ p, c.unionAt ∅ stops = .ok p ∧ p.Proper ∧ p.toList = numbersOf base ds P := by
  have hread : ∀ stop ∈ stops, ∃ p, c.postingsAt stop = .ok p ∧ p.Proper := by
    intro stop hstop
    obtain ⟨value, hentry, -⟩ := (hstops stop).mp hstop
    obtain ⟨p, hp, hproper, -⟩ := h.entry_encode hentry
    exact ⟨p, hp, hproper⟩
  obtain ⟨q, hq, hproper, hcontains⟩ := unionAt_eq hread Postings.proper_empty
  refine ⟨q, hq, hproper, ?_⟩
  apply toList_eq_numbersOf h.limit_eq hproper
  intro id
  rw [hcontains, Postings.contains_empty]
  constructor
  · intro hid
    obtain hid | ⟨stop, hstop, p, hp, hid⟩ := hid
    · cases hid
    · obtain ⟨value, hentry, htest⟩ := (hstops stop).mp hstop
      obtain ⟨q, hq, -, hlog⟩ := h.entry_encode hentry
      obtain rfl : p = q := Except.ok.inj (hp.symm.trans hq)
      obtain ⟨i, d, hd, hnumber, hterm⟩ := Mutable.mem_logOf.mp ((hlog id).mp hid)
      exact ⟨i, d, hd, hnumber, (hP d).mpr ⟨value, hterm, htest⟩⟩
  · intro hid
    obtain ⟨i, d, hd, hnumber, hd'⟩ := hid
    obtain ⟨value, hterm, htest⟩ := (hP d).mp hd'
    have hmem := Mutable.mem_logOf.mpr ⟨i, d, hd, hnumber, hterm⟩
    obtain ⟨stop, hstop⟩ := Option.isSome_iff_exists.mp ((h.mem_keys _).mpr ⟨id, hmem⟩)
    have hentry := ByteMap.mem_entries_iff.mpr hstop
    obtain ⟨p, hp, -, hlog⟩ := h.entry_encode hentry
    exact .inr ⟨stop, (hstops stop).mpr ⟨value, hentry, htest⟩, p, hp, (hlog id).mpr hmem⟩

/-- The entries of a field are those whose keys begin with it. -/
theorem mem_entriesOf_iff {field key : Bytes} {stop : UInt64} :
    (key, stop) ∈ c.entriesOf field ↔
      ∃ value, key = Key.encode field value ∧ (Key.encode field value, stop) ∈ c.keys.entries := by
  rw [entriesOf, List.mem_filter, Key.inField_iff]
  constructor
  · intro h
    obtain ⟨hentry, value, rfl⟩ := h
    exact ⟨value, rfl, hentry⟩
  · intro h
    obtain ⟨value, rfl, hentry⟩ := h
    exact ⟨hentry, value, rfl⟩

theorem Represents.matchField_eq (h : c.Represents base ds) (field : Bytes) :
    ∃ p, c.matchField field = .ok p ∧ p.Proper ∧ p.toList = numbersOf base ds (hasField · field) := by
  apply h.unionAt_having
  · intro stop
    rw [List.mem_map]
    constructor
    · intro hstop
      obtain ⟨⟨key, stop⟩, hentry, rfl⟩ := hstop
      obtain ⟨value, -, hentry⟩ := mem_entriesOf_iff.mp hentry
      exact ⟨value, hentry, rfl⟩
    · intro hstop
      obtain ⟨value, hentry, -⟩ := hstop
      exact ⟨_, mem_entriesOf_iff.mpr ⟨value, rfl, hentry⟩, rfl⟩
  · intro d
    rw [Mutable.hasField_iff]
    exact exists_congr fun value => (and_iff_left rfl).symm

theorem Represents.containsField_eq (h : c.Represents base ds) (field : Bytes) :
    c.containsField field = ds.any (hasField · field) := by
  rw [containsField, Bool.eq_iff_iff, List.any_eq_true, Bool.not_eq_true',
    List.isEmpty_eq_false_iff_exists_mem]
  constructor
  · intro hentry
    obtain ⟨⟨key, stop⟩, hmem⟩ := hentry
    obtain ⟨value, -, -, hany⟩ := h.mem_entriesOf hmem
    obtain ⟨d, hd, hterm⟩ := List.any_eq_true.mp hany
    exact ⟨d, hd, Mutable.hasField_iff.mpr ⟨value, of_decide_eq_true hterm⟩⟩
  · intro hd
    obtain ⟨d, hd, hfield⟩ := hd
    obtain ⟨value, hvalue⟩ := Mutable.hasField_iff.mp hfield
    obtain ⟨stop, hstop⟩ :=
      h.exists_entryOf (List.any_eq_true.mpr ⟨d, hd, decide_eq_true hvalue⟩)
    exact ⟨_, hstop⟩

/-- Keys of one field are split into the field and their values. -/
theorem mapM_decode {field : Bytes} {keys : List Bytes}
    (h : ∀ key ∈ keys, ¬ Document.separatorBytes <:+: field ∧ ∃ v, key = Key.encode field v) :
    ∃ vs : List Bytes, keys = vs.map (Key.encode field) ∧
      keys.mapM Key.decode = .ok (vs.map (Prod.mk field)) := by
  induction keys with
  | nil => exact ⟨[], rfl, rfl⟩
  | cons key keys ih =>
    obtain ⟨hfield, v, rfl⟩ := h key (by simp)
    obtain ⟨vs, rfl, hvs⟩ := ih fun k hk => h k (by simp [hk])
    refine ⟨v :: vs, rfl, ?_⟩
    rw [List.mapM_cons, Key.decode_encode hfield, hvs]
    rfl

theorem Represents.terms_eq (h : c.Represents base ds) (field : Bytes) :
    ∃ vs, c.terms field = .ok vs ∧ Bytes.Ascending vs ∧
      ∀ v, v ∈ vs ↔ ds.any (hasTerm · field v) = true := by
  have hkeys : ∀ key ∈ (c.entriesOf field).map Prod.fst,
      ¬ Document.separatorBytes <:+: field ∧ ∃ v, key = Key.encode field v := by
    intro key hkey
    obtain ⟨⟨key, stop⟩, hmem, rfl⟩ := List.mem_map.mp hkey
    obtain ⟨v, rfl, hfield, -⟩ := h.mem_entriesOf hmem
    exact ⟨hfield, v, rfl⟩
  obtain ⟨vs, hvs, hdecode⟩ := mapM_decode hkeys
  refine ⟨vs, ?_, ?_, ?_⟩
  · rw [terms, hdecode, Except.map, List.map_map]
    simp [Function.comp_def]
  · have hascending : Bytes.Ascending (vs.map (Key.encode field)) := by
      rw [← hvs]
      exact c.keys.ascending.sublist (List.filter_sublist.map Prod.fst)
    exact (List.pairwise_map.mp hascending).imp fun hlt => Key.lt_of_encode_lt hlt
  · intro v
    constructor
    · intro hv
      have hkey : Key.encode field v ∈ (c.entriesOf field).map Prod.fst := by
        rw [hvs]
        exact List.mem_map_of_mem hv
      obtain ⟨⟨key, stop⟩, hmem, hkey⟩ := List.mem_map.mp hkey
      obtain ⟨w, hw, -, hany⟩ := h.mem_entriesOf hmem
      have hvw : Key.encode field v = Key.encode field w := hkey.symm.trans hw
      rwa [List.append_cancel_left hvw]
    · intro hany
      obtain ⟨stop, hstop⟩ := h.exists_entryOf hany
      have hkey : Key.encode field v ∈ vs.map (Key.encode field) := by
        rw [← hvs]
        exact List.mem_map.mpr ⟨_, hstop, rfl⟩
      obtain ⟨w, hw, hwv⟩ := List.mem_map.mp hkey
      have hvw : v = w := (List.append_cancel_left hwv).symm
      rwa [hvw]

theorem Represents.matchAll_eq (h : c.Represents base ds) :
    c.matchAll.toList = idsBetween base c.limit := by
  rw [matchAll, Reader.toList_ofRange, h.base_eq]

/-- Numbers of the segment all have documents. -/
theorem Represents.documents_eq (h : c.Represents base ds) {p : Postings}
    (hp : ∀ id ∈ p.toList, base ≤ id ∧ id < c.limit) :
    c.documents p = .ok (p.toList.filterMap fun id => ds[id.toNat - base.toNat]?) := by
  apply Results.mapM_eq_ok
  intro id hid
  obtain ⟨hle, hlt⟩ := hp id hid
  have hlimit := h.limit_eq
  rw [UInt32.le_iff_toNat_le] at hle
  rw [UInt32.lt_iff_toNat_lt] at hlt
  have hi : id.toNat - base.toNat < ds.length := by omega
  have hnumber : idAt base (id.toNat - base.toNat) = id := by
    apply UInt32.toNat_inj.mp
    rw [Mutable.toNat_idAt_of_lt hlimit hi]
    omega
  have hd := List.getElem?_eq_getElem hi
  have hread := h.document _ _ hd
  rw [hnumber] at hread
  exact ⟨ds[id.toNat - base.toNat], hd, hread⟩

/-- All documents are fetched in their order. -/
theorem Represents.allDocuments_eq (h : c.Represents base ds) : c.allDocuments = .ok ds := by
  have hids : ∀ id ∈ c.matchAll.toList, base ≤ id ∧ id < c.limit := by
    intro id hid
    rw [h.matchAll_eq] at hid
    exact Mutable.mem_idsBetween.mp hid
  rw [allDocuments, h.documents_eq hids, h.matchAll_eq]
  have hall : ((idsBetween base c.limit).filter fun _ => true).filterMap
      (fun id => ds[id.toNat - base.toNat]?) = ds.filter fun _ => true :=
    Mutable.filterMap_idsBetween h.limit_eq fun _ _ _ => rfl
  rw [List.filter_true, List.filter_true] at hall
  rw [hall]

end InvertedIndex.Segment.Contents
