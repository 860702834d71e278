import InvertedIndex.Proofs.Dictionary
import InvertedIndex.Proofs.Document
import InvertedIndex.Segment.Mutable

namespace InvertedIndex.Segment.Mutable

open Dictionary (Log)

theorem join_grow (slots : Array (Option Document)) (k i : Nat) :
    ((grow slots k)[i]?).join = (slots[i]?).join := by
  unfold grow
  split
  · rfl
  · rw [Array.getElem?_append]
    split
    · rfl
    · next hi =>
      have hold : slots[i]? = none := Array.getElem?_eq_none (by omega)
      rw [hold, Array.getElem?_replicate]
      split <;> rfl

theorem lt_size_grow (slots : Array (Option Document)) (k : Nat) : k < (grow slots k).size := by
  unfold grow
  split
  · assumption
  · simp
    omega

/-- Filling a free slot changes nothing else. -/
theorem join_fill (slots : Array (Option Document)) (k : Nat) (d : Document)
    (hfree : (slots[k]?).join = none) (i : Nat) :
    ((fill slots k d)[i]?).join = if i = k then some d else (slots[i]?).join := by
  have hsize := lt_size_grow slots k
  rw [fill, Array.getElem?_modify]
  by_cases hi : i = k
  · subst hi
    have hjoin := join_grow slots i i
    rw [Array.getElem?_eq_getElem hsize] at hjoin ⊢
    rw [hfree] at hjoin
    have hnone : (grow slots i)[i] = none := hjoin
    simp [hnone]
  · have hne : k ≠ i := fun h => hi h.symm
    rw [if_neg hne, if_neg hi]
    exact join_grow slots k i

/-- The number of the `i`th document. -/
def idAt (offset : PostingsId) (i : Nat) : PostingsId := .ofNat (offset.toNat + i)

theorem toNat_idAt {offset : PostingsId} {i : Nat} (h : offset.toNat + i < UInt32.size) :
    (idAt offset i).toNat = offset.toNat + i := by
  rw [idAt, UInt32.toNat_ofNat']
  exact Nat.mod_eq_of_lt h

/-- Numbers below a limit that fits do not run over. -/
theorem toNat_idAt_of_lt {offset limit : PostingsId} {n i : Nat}
    (h : limit.toNat = offset.toNat + n) (hi : i < n) :
    (idAt offset i).toNat = offset.toNat + i := by
  apply toNat_idAt
  have hlt := limit.toNat_lt_size
  omega

/-- The pairs of documents that are numbered in order. -/
def logOf (offset : PostingsId) (docs : List Document) : Log :=
  docs.zipIdx.flatMap fun (d, i) => (termsOf d).map fun f => (idAt offset i, f)

theorem mem_logOf {offset : PostingsId} {docs : List Document} {id : PostingsId} {f : Field} :
    (id, f) ∈ logOf offset docs ↔
      ∃ i d, docs[i]? = some d ∧ id = idAt offset i ∧ f ∈ termsOf d := by
  rw [logOf, List.mem_flatMap]
  constructor
  · rintro ⟨⟨d, i⟩, hd, hf⟩
    obtain ⟨g, hg, heq⟩ := List.mem_map.mp hf
    cases heq
    exact ⟨i, d, List.mem_zipIdx_iff_getElem?.mp hd, rfl, hg⟩
  · rintro ⟨i, d, hd, rfl, hf⟩
    exact ⟨(d, i), List.mem_zipIdx_iff_getElem?.mpr hd, List.mem_map.mpr ⟨f, hf, rfl⟩⟩

theorem logOf_append_singleton (offset : PostingsId) (docs : List Document) (d : Document) :
    logOf offset (docs ++ [d]) =
      logOf offset docs ++ (termsOf d).map fun f => (idAt offset docs.length, f) := by
  simp [logOf, List.zipIdx_append]

/-- The segment holds these documents, in this order, and nothing else. -/
structure Represents (s : Mutable) (docs : List Document) : Prop where
  watermark : s.watermark.toNat = s.offset.toNat + docs.length
  slots (i : Nat) : (s.slots[i]?).join = docs[i]?
  valid : ∀ d ∈ docs, d.validate = .ok ()
  identified : ∀ d ∈ docs, d.id.isSome = true
  distinct : (docs.map Document.id).Nodup
  dictionary : s.dictionary.Represents (logOf s.offset docs)

theorem represents_new (options : Options) (generator : Nat → Bytes) :
    (new options generator).Represents [] where
  watermark := rfl
  slots i := by
    simp only [new, Array.getElem?_replicate]
    split <;> rfl
  valid := by simp
  identified := by simp
  distinct := by simp
  dictionary := Dictionary.represents_new options.strategy

theorem represents_foldl_insert {d : Dictionary} {log : Log} (h : d.Represents log)
    {fs : List Field} (hfs : ∀ f ∈ fs, Utf8.isValid f.value = true) (id : PostingsId) :
    (fs.foldl (·.insert · id) d).Represents (log ++ fs.map fun f => (id, f)) := by
  induction fs generalizing d log with
  | nil => simpa using h
  | cons f fs ih =>
    have hinsert := Dictionary.represents_insert h (hfs f (by simp)) id
    have hrest := ih hinsert fun g hg => hfs g (by simp [hg])
    refine hrest.of_mem_iff fun e => ?_
    simp only [List.map_cons, List.mem_append, List.mem_cons]
    grind

theorem isPlain_termsOf {d : Document} (hd : d.validate = .ok ()) {f : Field}
    (hf : f ∈ termsOf d) : Document.IsPlain f.name ∧ Document.IsPlain f.value := by
  obtain ⟨-, hid, hfields⟩ := Document.validate_eq_ok.mp hd
  rw [termsOf, List.mem_append] at hf
  cases hf with
  | inl hf =>
    obtain ⟨-, -, hplain⟩ := Document.validateField_eq_ok.mp (hfields f hf)
    exact hplain
  | inr hf =>
    obtain ⟨id, hmem, rfl⟩ := List.mem_map.mp hf
    obtain ⟨-, hvalue⟩ := Document.validateId_eq_ok.mp (hid id (Option.mem_toList.mp hmem))
    exact ⟨Document.isPlain_idField, hvalue⟩

theorem isValid_termsOf {d : Document} (hd : d.validate = .ok ()) {f : Field}
    (hf : f ∈ termsOf d) : Utf8.isValid f.value = true :=
  Document.isValid_of_isPlain (isPlain_termsOf hd hf).2

section

variable {s : Mutable} {docs : List Document}

/-- The watermark is the number of the document that comes next. -/
theorem Represents.idAt_length (h : s.Represents docs) :
    idAt s.offset docs.length = s.watermark := by
  apply UInt32.toNat_inj.mp
  have hlt := s.watermark.toNat_lt
  rw [toNat_idAt (by rw [← h.watermark]; exact hlt), h.watermark]

/-- A commit adds one document behind the others. -/
theorem represents_commit (h : s.Represents docs) {d : Document} (hd : d.validate = .ok ())
    (hid : d.id.isSome = true) (hnew : d.id ∉ docs.map Document.id)
    (hroom : s.watermark ≠ PostingsId.last) : (s.commit d).Represents (docs ++ [d]) where
  watermark := by
    have hsucc := PostingsId.toNat_succ_of_ne_last hroom
    have hwatermark := h.watermark
    simp only [commit, List.length_append, List.length_singleton]
    omega
  slots i := by
    have hslot : s.slotOf s.watermark = docs.length := by
      rw [slotOf, h.watermark]
      omega
    have hfree : (s.slots[docs.length]?).join = none := by
      rw [h.slots]
      simp
    simp only [commit, hslot]
    rw [join_fill s.slots docs.length d hfree, h.slots, List.getElem?_append]
    split
    · next hi => simp [hi]
    · next hi =>
      split
      · rfl
      · next hlt =>
        have hlong : ([d])[i - docs.length]? = none := by
          apply List.getElem?_eq_none
          simp only [List.length_singleton]
          omega
        rw [hlong]
        exact List.getElem?_eq_none (by omega)
  valid := by
    intro e he
    cases List.mem_append.mp he with
    | inl he => exact h.valid e he
    | inr he => rwa [List.mem_singleton.mp he]
  identified := by
    intro e he
    cases List.mem_append.mp he with
    | inl he => exact h.identified e he
    | inr he => rwa [List.mem_singleton.mp he]
  distinct := by
    rw [List.map_append, List.map_singleton, List.nodup_append]
    refine ⟨h.distinct, List.nodup_singleton _, ?_⟩
    intro x hx y hy heq
    rw [List.mem_singleton.mp hy] at heq
    exact hnew (heq ▸ hx)
  dictionary := by
    have hterms := represents_foldl_insert h.dictionary (fun f hf => isValid_termsOf hd hf)
      s.watermark
    rw [← h.idAt_length, ← logOf_append_singleton] at hterms
    rwa [h.idAt_length] at hterms

theorem Represents.toNat_idAt (h : s.Represents docs) {i : Nat} (hi : i < docs.length) :
    (idAt s.offset i).toNat = s.offset.toNat + i :=
  toNat_idAt_of_lt h.watermark hi

/-- The last number is the number of no document. -/
theorem Represents.offset_add_length_le (h : s.Represents docs) :
    s.offset.toNat + docs.length ≤ PostingsId.last.toNat := by
  have hlt := s.watermark.toNat_lt_size
  have hlast : PostingsId.last.toNat + 1 = UInt32.size := rfl
  have hwatermark := h.watermark
  omega

theorem Represents.idAt_ne_last (h : s.Represents docs) {i : Nat} (hi : i < docs.length) :
    idAt s.offset i ≠ PostingsId.last := by
  intro heq
  have hnat := h.toNat_idAt hi
  have hbound := h.offset_add_length_le
  rw [heq] at hnat
  omega

/-- What is read at a number. -/
theorem Represents.document?_eq (h : s.Represents docs) (id : PostingsId) :
    s.document? id = if id < s.offset then none else docs[id.toNat - s.offset.toNat]? := by
  rw [document?, slotOf, h.slots]

/-- A document is found under its number. -/
theorem Represents.document?_idAt (h : s.Represents docs) {i : Nat} (hi : i < docs.length) :
    s.document? (idAt s.offset i) = docs[i]? := by
  have hid := h.toNat_idAt hi
  have hle : ¬ idAt s.offset i < s.offset := by
    rw [UInt32.lt_iff_toNat_lt]
    omega
  rw [h.document?_eq, if_neg hle, hid]
  simp

end

end InvertedIndex.Segment.Mutable
