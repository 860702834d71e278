import InvertedIndex.Document
import InvertedIndex.Proofs.Utf8

namespace InvertedIndex.Document

/-- Text without the separator. -/
def IsPlain (bs : Bytes) : Prop := ∃ cs, bs = Utf8.encode cs ∧ separator ∉ cs

theorem isValid_of_isPlain {bs : Bytes} (h : IsPlain bs) : Utf8.isValid bs = true := by
  obtain ⟨cs, rfl, -⟩ := h
  rw [Utf8.isValid, Utf8.decode_encode]
  rfl

theorem isPlain_idField : IsPlain idField := ⟨"_id".toList, rfl, by decide⟩

theorem validateText_eq_ok {what : String} {bs : Bytes} :
    validateText what bs = .ok () ↔ IsPlain bs := by
  unfold validateText
  split
  · next fault hfault =>
    constructor
    · intro h
      cases h
    · intro h
      obtain ⟨cs, hcs, -⟩ := h
      rw [Utf8.decode_eq_ok_iff.mpr hcs] at hfault
      cases hfault
  · next cs hcs =>
    have hbs := Utf8.decode_eq_ok_iff.mp hcs
    split
    · next hsep =>
      constructor
      · intro h
        cases h
      · intro h
        obtain ⟨ds, hds, hnot⟩ := h
        obtain rfl : cs = ds := Utf8.encode_injective (hbs.symm.trans hds)
        exact absurd (List.contains_iff_mem.mp hsep) hnot
    · next hsep =>
      have hnot : separator ∉ cs := by
        intro hmem
        exact hsep (List.contains_iff_mem.mpr hmem)
      exact ⟨fun _ => ⟨cs, hbs, hnot⟩, fun _ => rfl⟩

theorem validateId_eq_ok {id : Bytes} : validateId id = .ok () ↔ id ≠ [] ∧ IsPlain id := by
  unfold validateId
  cases id with
  | nil => simp
  | cons b id => simp [validateText_eq_ok]

theorem validateField_eq_ok {f : Field} :
    validateField f = .ok () ↔
      f.name ≠ [] ∧ f.name ≠ idField ∧ IsPlain f.name ∧ IsPlain f.value := by
  unfold validateField
  by_cases hempty : f.name = []
  · simp [hempty]
  · have hne : f.name.isEmpty = false := by simpa using hempty
    rw [hne]
    by_cases hid : f.name = idField
    · simp [hid]
    · simp only [Bool.false_eq_true, if_false, if_neg hid]
      split
      · next e he =>
        have hnot : ¬ IsPlain f.name := by
          intro h
          rw [validateText_eq_ok.mpr h] at he
          cases he
        simp [hnot]
      · next he =>
        have hname := validateText_eq_ok.mp he
        simp [hempty, hid, hname, validateText_eq_ok]

theorem validateFields_eq_ok {fs : List Field} :
    validateFields fs = .ok () ↔ ∀ f ∈ fs, validateField f = .ok () := by
  induction fs with
  | nil => simp [validateFields]
  | cons f fs ih =>
    rw [validateFields, List.forall_mem_cons, ← ih]
    split
    · next e he => simp [he]
    · next he => simp [he]

theorem validateOptionalId_eq_ok {id : Option Bytes} :
    validateOptionalId id = .ok () ↔ ∀ x, id = some x → validateId x = .ok () := by
  cases id with
  | none => simp [validateOptionalId]
  | some x => simp [validateOptionalId]

/-- A document is valid if it has fields and all that is in it is valid. -/
theorem validate_eq_ok {d : Document} :
    d.validate = .ok () ↔
      d.fields ≠ [] ∧ (∀ x, d.id = some x → validateId x = .ok ()) ∧
        ∀ f ∈ d.fields, validateField f = .ok () := by
  unfold validate
  cases hfields : d.fields with
  | nil => simp
  | cons f fs =>
    rw [← validateOptionalId_eq_ok, ← validateFields_eq_ok]
    simp only [List.isEmpty_cons, Bool.false_eq_true, if_false]
    split
    · next e he => simp [he]
    · next he => simp [he]

/-- A valid document stays valid with a valid identifier. -/
theorem validate_with_id {d : Document} (h : d.validate = .ok ()) {id : Bytes}
    (hid : validateId id = .ok ()) : Document.validate { d with id := some id } = .ok () := by
  obtain ⟨hfields, -, hvalid⟩ := validate_eq_ok.mp h
  refine validate_eq_ok.mpr ⟨hfields, ?_, hvalid⟩
  intro x hx
  rwa [← Option.some.inj hx]

theorem validateText_eq_error {what : String} {bs : Bytes} {e : Error}
    (h : validateText what bs = .error e) : ∃ reason, e = .invalidDocument reason := by
  unfold validateText at h
  split at h
  · exact ⟨_, (Except.error.inj h).symm⟩
  · split at h
    · exact ⟨_, (Except.error.inj h).symm⟩
    · cases h

theorem validateId_eq_error {id : Bytes} {e : Error} (h : validateId id = .error e) :
    ∃ reason, e = .invalidDocument reason := by
  unfold validateId at h
  split at h
  · exact ⟨_, (Except.error.inj h).symm⟩
  · exact validateText_eq_error h

theorem validateField_eq_error {f : Field} {e : Error} (h : validateField f = .error e) :
    ∃ reason, e = .invalidDocument reason := by
  unfold validateField at h
  split at h
  · exact ⟨_, (Except.error.inj h).symm⟩
  · split at h
    · exact ⟨_, (Except.error.inj h).symm⟩
    · split at h
      · next e' hname =>
        rw [← Except.error.inj h]
        exact validateText_eq_error hname
      · exact validateText_eq_error h

theorem validateFields_eq_error {fs : List Field} {e : Error} (h : validateFields fs = .error e) :
    ∃ reason, e = .invalidDocument reason := by
  induction fs with
  | nil => cases h
  | cons f fs ih =>
    rw [validateFields] at h
    split at h
    · next e' hfield =>
      rw [← Except.error.inj h]
      exact validateField_eq_error hfield
    · exact ih h

/-- Whatever is wrong with a document, the error says that the document is invalid. -/
theorem validate_eq_error {d : Document} {e : Error} (h : d.validate = .error e) :
    ∃ reason, e = .invalidDocument reason := by
  unfold validate at h
  split at h
  · exact ⟨_, (Except.error.inj h).symm⟩
  · split at h
    · next e' hid =>
      rw [← Except.error.inj h]
      cases hoptional : d.id with
      | none =>
        rw [hoptional] at hid
        cases hid
      | some id =>
        rw [hoptional] at hid
        exact validateId_eq_error hid
    · exact validateFields_eq_error h

end InvertedIndex.Document
