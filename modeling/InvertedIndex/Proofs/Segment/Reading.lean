import InvertedIndex.Proofs.Segment.Mutable
import InvertedIndex.Segment.Session

namespace InvertedIndex.Segment.Mutable

open Dictionary (Log)

/-- The document has the value under the field. -/
def hasTerm (d : Document) (field value : Bytes) : Bool := ⟨field, value⟩ ∈ termsOf d

def hasField (d : Document) (field : Bytes) : Bool := (termsOf d).any (·.name = field)

/-- The document has a value under the field that the pattern matches. -/
def hasMatch (d : Document) (field : Bytes) (p : Pattern) : Bool :=
  (termsOf d).any fun f => decide (f.name = field) && p.isMatch f.value

/-- The identifier counts as a term of a field of its own. -/
theorem hasTerm_iff {d : Document} {field value : Bytes} :
    hasTerm d field value = true ↔
      ⟨field, value⟩ ∈ d.fields ∨ field = Document.idField ∧ d.id = some value := by
  rw [hasTerm, decide_eq_true_iff, termsOf, List.mem_append]
  apply or_congr_right
  cases d.id with
  | none => simp
  | some id =>
    have hcomm : value = id ↔ id = value := eq_comm
    simp [hcomm]

theorem hasField_iff {d : Document} {field : Bytes} :
    hasField d field = true ↔ ∃ value, ⟨field, value⟩ ∈ termsOf d := by
  rw [hasField, List.any_eq_true]
  constructor
  · intro h
    obtain ⟨f, hf, hname⟩ := h
    have hname := of_decide_eq_true hname
    exact ⟨f.value, by rwa [← hname]⟩
  · intro h
    obtain ⟨value, hvalue⟩ := h
    exact ⟨⟨field, value⟩, hvalue, by simp⟩

theorem hasMatch_iff {d : Document} {field : Bytes} {p : Pattern} :
    hasMatch d field p = true ↔ ∃ value, ⟨field, value⟩ ∈ termsOf d ∧ p.isMatch value = true := by
  rw [hasMatch, List.any_eq_true]
  constructor
  · intro h
    obtain ⟨f, hf, hmatch⟩ := h
    rw [Bool.and_eq_true] at hmatch
    have hname := of_decide_eq_true hmatch.1
    exact ⟨f.value, by rwa [← hname], hmatch.2⟩
  · intro h
    obtain ⟨value, hvalue, hmatch⟩ := h
    exact ⟨⟨field, value⟩, hvalue, by simp [hmatch]⟩

theorem idsBetween_eq {lo hi : PostingsId} {n : Nat} (h : hi.toNat = lo.toNat + n) :
    idsBetween lo hi = (List.range n).map (idAt lo) := by
  have hn : hi.toNat - lo.toNat = n := by omega
  rw [idsBetween, hn, List.range'_eq_map_range, List.map_map]
  rfl

theorem mem_idsBetween {lo hi id : PostingsId} :
    id ∈ idsBetween lo hi ↔ lo ≤ id ∧ id < hi := by
  have hlt := hi.toNat_lt_size
  rw [idsBetween, List.mem_map, UInt32.le_iff_toNat_le, UInt32.lt_iff_toNat_lt]
  constructor
  · intro h
    obtain ⟨n, hn, rfl⟩ := h
    rw [List.mem_range'_1] at hn
    rw [UInt32.toNat_ofNat', Nat.mod_eq_of_lt (show n < 2 ^ 32 from by
      have hsize : UInt32.size = 2 ^ 32 := rfl
      omega)]
    omega
  · intro h
    refine ⟨id.toNat, ?_, UInt32.ofNat_toNat⟩
    rw [List.mem_range'_1]
    omega

theorem ascending_idsBetween (lo hi : PostingsId) : (idsBetween lo hi).Pairwise (· < ·) := by
  rw [idsBetween, List.pairwise_map]
  refine (List.pairwise_lt_range' 1).imp_of_mem ?_
  intro x y hx hy hxy
  have hlt := hi.toNat_lt_size
  have hsize : UInt32.size = 2 ^ 32 := rfl
  rw [List.mem_range'_1] at hx hy
  rw [UInt32.lt_iff_toNat_lt, UInt32.toNat_ofNat', UInt32.toNat_ofNat',
    Nat.mod_eq_of_lt (show x < 2 ^ 32 from by omega), Nat.mod_eq_of_lt (show y < 2 ^ 32 from by omega)]
  exact hxy

theorem filterMap_getElem?_range {α : Type} (xs : List α) :
    (List.range xs.length).filterMap (xs[·]?) = xs := by
  induction xs with
  | nil => rfl
  | cons x xs ih =>
    rw [List.length_cons, List.range_succ_eq_map, List.filterMap_cons, List.filterMap_map]
    exact congrArg (x :: ·) ih

/-- The documents whose numbers a test finds are those that have the property. -/
theorem filterMap_idsBetween {lo hi : PostingsId} {docs : List Document}
    (h : hi.toNat = lo.toNat + docs.length) {find : PostingsId → Bool} {P : Document → Bool}
    (hfind : ∀ i d, docs[i]? = some d → find (idAt lo i) = P d) :
    ((idsBetween lo hi).filter find).filterMap (fun id => docs[id.toNat - lo.toNat]?) =
      docs.filter P := by
  have hlt := hi.toNat_lt_size
  have hat (i : Nat) (hi : i ∈ List.range docs.length) :
      (if find (idAt lo i) = true then docs[(idAt lo i).toNat - lo.toNat]? else none) =
        (docs[i]?).filter P := by
    have hi := List.mem_range.mp hi
    have hnat : (idAt lo i).toNat = lo.toNat + i := toNat_idAt (by omega)
    have hsub : lo.toNat + i - lo.toNat = i := by omega
    rw [hnat, hsub, List.getElem?_eq_getElem hi,
      hfind i docs[i] (List.getElem?_eq_getElem hi)]
    rfl
  rw [idsBetween_eq h, List.filterMap_filter, List.filterMap_map]
  calc
    _ = (List.range docs.length).filterMap fun i => (docs[i]?).filter P :=
      List.filterMap_congr hat
    _ = ((List.range docs.length).filterMap (docs[·]?)).filter P := by
      rw [List.filter_filterMap]
    _ = docs.filter P := by rw [filterMap_getElem?_range]

section

variable {s : Mutable} {docs more : List Document}

/-- Numbers from the offset up to the watermark all have documents. -/
theorem Represents.mapM_resolve (h : s.Represents docs) {ids : List PostingsId}
    (hids : ∀ id ∈ ids, s.offset ≤ id ∧ id < s.watermark) :
    ids.mapM s.resolve = .ok (ids.filterMap fun id => docs[id.toNat - s.offset.toNat]?) := by
  apply Results.mapM_eq_ok
  intro id hid
  obtain ⟨hle, hlt⟩ := hids id hid
  have hwatermark := h.watermark
  rw [UInt32.le_iff_toNat_le] at hle
  rw [UInt32.lt_iff_toNat_lt] at hlt
  have hi : id.toNat - s.offset.toNat < docs.length := by omega
  have hge : ¬ id < s.offset := by
    rw [UInt32.lt_iff_toNat_lt]
    omega
  have hdoc := List.getElem?_eq_getElem hi
  refine ⟨docs[id.toNat - s.offset.toNat], hdoc, ?_⟩
  rw [resolve, h.document?_eq, if_neg hge, hdoc]

/-- The documents up to an earlier watermark are the first ones. -/
theorem Represents.mapM_resolve_idsBetween (h : s.Represents (docs ++ more)) {w : PostingsId}
    (hw : w.toNat = s.offset.toNat + docs.length) :
    (idsBetween s.offset w).mapM s.resolve = .ok docs := by
  have hwatermark := h.watermark
  rw [List.length_append] at hwatermark
  have hids : ∀ id ∈ idsBetween s.offset w, s.offset ≤ id ∧ id < s.watermark := by
    intro id hid
    obtain ⟨hle, hlt⟩ := mem_idsBetween.mp hid
    refine ⟨hle, ?_⟩
    rw [UInt32.lt_iff_toNat_lt] at hlt ⊢
    omega
  rw [h.mapM_resolve hids, idsBetween_eq hw, List.filterMap_map]
  congr 1
  calc
    _ = (List.range docs.length).filterMap (docs[·]?) := by
      apply List.filterMap_congr
      intro i hi
      have hi := List.mem_range.mp hi
      have hlong : i < (docs ++ more).length := by
        rw [List.length_append]
        omega
      rw [Function.comp_apply, h.toNat_idAt hlong, Nat.add_sub_cancel_left,
        List.getElem?_append_left hi]
    _ = docs := filterMap_getElem?_range docs

/-- A segment hands out the documents that it holds. -/
theorem Represents.committed_eq (h : s.Represents docs) : s.committed = .ok docs := by
  have happend : s.Represents (docs ++ []) := by rwa [List.append_nil]
  exact happend.mapM_resolve_idsBetween h.watermark

theorem Represents.mem_logOf_idAt (h : s.Represents docs) {i : Nat} {d : Document}
    (hd : docs[i]? = some d) {f : Field} :
    (idAt s.offset i, f) ∈ logOf s.offset docs ↔ f ∈ termsOf d := by
  have hi : i < docs.length := (List.getElem?_eq_some_iff.mp hd).1
  rw [mem_logOf]
  constructor
  · intro hmem
    obtain ⟨j, e, he, hid, hf⟩ := hmem
    have hj : j < docs.length := (List.getElem?_eq_some_iff.mp he).1
    have heq : i = j := by
      have hnat := congrArg UInt32.toNat hid
      rw [h.toNat_idAt hi, h.toNat_idAt hj] at hnat
      omega
    subst heq
    rw [hd] at he
    rwa [Option.some.inj he]
  · intro hf
    exact ⟨i, d, hd, rfl, hf⟩

theorem Represents.le_of_mem_logOf (h : s.Represents docs) {id : PostingsId} {f : Field}
    (hf : (id, f) ∈ logOf s.offset docs) : s.offset ≤ id := by
  obtain ⟨i, d, hd, rfl, -⟩ := mem_logOf.mp hf
  have hnat := h.toNat_idAt (List.getElem?_eq_some_iff.mp hd).1
  rw [UInt32.le_iff_toNat_le]
  omega

/-- Documents that come later leave the terms of the others alone. -/
theorem Represents.agreeOn (h : s.Represents docs) {t : Mutable} (ht : t.Represents (docs ++ more))
    (hoffset : t.offset = s.offset) {i : Nat} (hi : i < docs.length) :
    Dictionary.AgreeOn (logOf s.offset docs) (logOf t.offset (docs ++ more))
      (idAt s.offset i) := by
  intro f
  have hd := List.getElem?_eq_getElem hi
  have hlater : (docs ++ more)[i]? = some docs[i] := by rw [List.getElem?_append_left hi, hd]
  have hnow := ht.mem_logOf_idAt (f := f) hlater
  rw [hoffset] at hnow ⊢
  exact hnow.trans (h.mem_logOf_idAt hd).symm

end

end InvertedIndex.Segment.Mutable

namespace InvertedIndex.Segment.Reader

open Mutable

section

variable {r : Reader} {s : Mutable} {docs more : List Document}

/-- All numbers below a watermark, as postings. -/
theorem toList_ofRange (lo hi : PostingsId) : (Postings.ofRange lo hi).toList = idsBetween lo hi := by
  have hproper : (Postings.ofRange lo hi).Proper :=
    Postings.proper_insertBetween Postings.proper_empty lo.toNat (Nat.le_of_lt hi.toNat_lt_size)
  apply (Postings.ascending_toList hproper).eq_of_mem_iff (ascending_idsBetween lo hi)
  intro id
  rw [Postings.mem_toList hproper, Postings.contains_ofRange, mem_idsBetween, Bool.and_eq_true,
    decide_eq_true_iff, decide_eq_true_iff]

/-- What a list holds from the watermark on is dropped, and the rest is fetched. -/
theorem documents_eq_ok (h : s.Represents (docs ++ more)) (hopen : r.isClosed = false)
    (hw : r.watermark.toNat = s.offset.toNat + docs.length) {p : Postings} (hp : p.Keyed)
    (hlow : ∀ id ∈ p.toList, s.offset ≤ id) :
    r.documents s p = .ok ((p.toList.filter (· < r.watermark)).filterMap fun id =>
      docs[id.toNat - s.offset.toNat]?) := by
  have hwatermark := h.watermark
  rw [List.length_append] at hwatermark
  have hids : ∀ id ∈ p.toList.filter (· < r.watermark), s.offset ≤ id ∧ id < s.watermark := by
    intro id hid
    obtain ⟨hmem, hlt⟩ := List.mem_filter.mp hid
    have hlt := of_decide_eq_true hlt
    refine ⟨hlow id hmem, ?_⟩
    rw [UInt32.lt_iff_toNat_lt] at hlt ⊢
    omega
  have hcheck : r.checkOpen = .ok () := by rw [checkOpen, hopen]; rfl
  rw [documents, hcheck]
  dsimp only
  rw [Postings.toList_truncate hp, h.mapM_resolve hids]
  congr 1
  apply List.filterMap_congr
  intro id hid
  obtain ⟨hmem, hlt⟩ := List.mem_filter.mp hid
  have hlt := of_decide_eq_true hlt
  have hle := hlow id hmem
  rw [UInt32.lt_iff_toNat_lt] at hlt
  rw [UInt32.le_iff_toNat_le] at hle
  rw [List.getElem?_append_left (by omega)]

/-- A list that tells below the watermark which documents have a property fetches just these. -/
theorem documents_eq_filter (h : s.Represents (docs ++ more)) (hopen : r.isClosed = false)
    (hw : r.watermark.toNat = s.offset.toNat + docs.length) {p : Postings} (hp : p.Proper)
    (hlow : ∀ id, p.contains id = true → s.offset ≤ id) {P : Document → Bool}
    (hP : ∀ i d, docs[i]? = some d → p.contains (idAt s.offset i) = P d) :
    r.documents s p = .ok (docs.filter P) := by
  have hmem (id : PostingsId) : id ∈ p.toList.filter (· < r.watermark) ↔
      id ∈ (idsBetween s.offset r.watermark).filter p.contains := by
    rw [List.mem_filter, List.mem_filter, Postings.mem_toList hp, mem_idsBetween,
      decide_eq_true_iff]
    constructor
    · intro hid
      exact ⟨⟨hlow id hid.1, hid.2⟩, hid.1⟩
    · intro hid
      exact ⟨hid.2, hid.1.2⟩
  have hlist : p.toList.filter (· < r.watermark) =
      (idsBetween s.offset r.watermark).filter p.contains :=
    ((Postings.ascending_toList hp).filter _).eq_of_mem_iff
      ((ascending_idsBetween _ _).filter _) hmem
  have hlow' : ∀ id ∈ p.toList, s.offset ≤ id :=
    fun id hid => hlow id ((Postings.mem_toList hp).mp hid)
  rw [documents_eq_ok h hopen hw hp.keyed hlow', hlist, filterMap_idsBetween hw hP]

end

end InvertedIndex.Segment.Reader
