import InvertedIndex.Bytes.Sorted
import InvertedIndex.Proofs.Segment.Key
import Mathlib.Data.Set.List

namespace InvertedIndex.Segment.Key

open Document (separatorBytes IsPlain)

theorem split?_eq_none_iff {key : Bytes} : split? key = none ↔ ¬ separatorBytes <:+: key := by
  induction key with
  | nil => exact iff_of_true rfl (by decide)
  | cons b bs ih =>
    rw [split?, List.infix_cons_iff, not_or, ← ih]
    split
    · next hprefix => simp [List.isPrefixOf_iff_prefix.mp hprefix]
    · next hprefix =>
      have hnot : ¬ separatorBytes <+: b :: bs := fun h => hprefix (List.isPrefixOf_iff_prefix.mpr h)
      simp [hnot]

theorem split?_eq_some {key field term : Bytes} (h : split? key = some (field, term)) :
    key = encode field term ∧ ¬ separatorBytes <:+: field := by
  induction key generalizing field with
  | nil => cases h
  | cons b bs ih =>
    rw [split?] at h
    split at h
    · next hprefix =>
      obtain ⟨rest, hrest⟩ := List.isPrefixOf_iff_prefix.mp hprefix
      rw [← hrest, List.drop_left] at h
      obtain ⟨rfl, rfl⟩ := Prod.mk.inj (Option.some.inj h)
      exact ⟨hrest.symm, by decide⟩
    · next hprefix =>
      obtain ⟨⟨field', term'⟩, hrest, hparts⟩ := Option.map_eq_some_iff.mp h
      obtain ⟨rfl, rfl⟩ := Prod.mk.inj hparts
      obtain ⟨rfl, hfield⟩ := ih hrest
      refine ⟨rfl, fun hinfix => ?_⟩
      rcases List.infix_cons_iff.mp hinfix with hfront | hinside
      · have hkey : separatorBytes <+: b :: encode field' term' :=
          hfront.trans ⟨separatorBytes ++ term', by simp [encode]⟩
        exact hprefix (List.isPrefixOf_iff_prefix.mpr hkey)
      · exact hfield hinside

/-- A key is split in front of its first separator. -/
theorem decode_eq_ok_iff {key field term : Bytes} :
    decode key = .ok (field, term) ↔ key = encode field term ∧ ¬ separatorBytes <:+: field := by
  constructor
  · intro h
    rw [decode] at h
    cases hsplit : split? key with
    | none =>
      rw [hsplit] at h
      cases h
    | some parts =>
      rw [hsplit] at h
      obtain rfl := Except.ok.inj h
      exact split?_eq_some hsplit
  · intro h
    obtain ⟨rfl, hfield⟩ := h
    exact decode_encode hfield term

/-- Only a key without separator cannot be taken apart. -/
theorem decode_eq_error_iff {key : Bytes} :
    decode key = .error (.format "fields FST key without separator") ↔
      ¬ separatorBytes <:+: key := by
  rw [← split?_eq_none_iff, decode]
  cases split? key <;> simp

theorem exists_decode_iff {key : Bytes} :
    (∃ parts, decode key = .ok parts) ↔ separatorBytes <:+: key := by
  rw [← not_iff_not, ← split?_eq_none_iff, decode]
  cases split? key <;> simp

/-- A field under which documents can be found: an accepted name, or that of identifiers. -/
def IsField (field : Bytes) : Prop :=
  field = Document.idField ∨ ∃ d : Document, d.validate = .ok () ∧ ∃ f ∈ d.fields, f.name = field

/-- A term by which documents can be found: an accepted value or identifier. -/
def IsTerm (term : Bytes) : Prop :=
  ∃ d : Document, d.validate = .ok () ∧ (d.id = some term ∨ ∃ f ∈ d.fields, f.value = term)

theorem IsField.isPlain {field : Bytes} (h : IsField field) : IsPlain field := by
  rcases h with rfl | ⟨d, hvalid, f, hf, rfl⟩
  · exact Document.isPlain_idField
  · obtain ⟨-, -, hfields⟩ := Document.validate_eq_ok.mp hvalid
    exact (Document.validateField_eq_ok.mp (hfields f hf)).2.2.1

theorem IsTerm.isPlain {term : Bytes} (h : IsTerm term) : IsPlain term := by
  obtain ⟨d, hvalid, hterm⟩ := h
  obtain ⟨-, hid, hfields⟩ := Document.validate_eq_ok.mp hvalid
  rcases hterm with hterm | ⟨f, hf, rfl⟩
  · exact (Document.validateId_eq_ok.mp (hid term hterm)).2
  · exact (Document.validateField_eq_ok.mp (hfields f hf)).2.2.2

/-- What comes before a bound stands in front of the rest. -/
theorem eq_filter_append_filter {keys : List Bytes} (h : Bytes.Ascending keys) (bound : Bytes) :
    keys = keys.filter (· < bound) ++ keys.filter (bound ≤ ·) := by
  induction keys with
  | nil => rfl
  | cons key keys ih =>
    obtain ⟨hkey, hkeys⟩ := List.pairwise_cons.mp h
    by_cases hlt : key < bound
    · have hnot : ¬ bound ≤ key := List.not_le.mpr hlt
      rw [List.filter_cons_of_pos (by simpa using hlt), List.filter_cons_of_neg (by simpa using hnot),
        List.cons_append, ← ih hkeys]
    · have hle : bound ≤ key := List.not_lt.mp hlt
      have habove : ∀ k ∈ key :: keys, bound ≤ k := by
        intro k hk
        rcases List.mem_cons.mp hk with rfl | hk
        · exact hle
        · exact Std.le_trans hle (Std.le_of_lt (hkey k hk))
      have hnone : (key :: keys).filter (· < bound) = [] := by
        rw [List.filter_eq_nil_iff]
        intro k hk
        simpa using habove k hk
      have hall : (key :: keys).filter (bound ≤ ·) = key :: keys := by
        rw [List.filter_eq_self]
        intro k hk
        simpa using habove k hk
      rw [hnone, hall, List.nil_append]

/-- The keys of a field stand side by side, between those in front of its range and those behind it. -/
theorem exists_run {keys : List Bytes} (h : Bytes.Ascending keys) (field : Bytes) :
    ∃ below terms above, keys = below ++ terms.map (encode field) ++ above ∧ Bytes.Ascending terms ∧
      (∀ key ∈ below, key < start field) ∧ (∀ key ∈ above, stop field ≤ key) := by
  have hbelow := eq_filter_append_filter h (start field)
  have habove := eq_filter_append_filter (List.Pairwise.filter (start field ≤ ·) h) (stop field)
  have hmem : ∀ key ∈ (keys.filter (start field ≤ ·)).filter (· < stop field),
      key ∈ Set.range (encode field) := by
    intro key hkey
    obtain ⟨hkey, hlt⟩ := List.mem_filter.mp hkey
    obtain ⟨-, hle⟩ := List.mem_filter.mp hkey
    have hin : inField field key = true := by
      rw [inField, hle, hlt]
      rfl
    obtain ⟨term, hterm⟩ := inField_iff.mp hin
    exact ⟨term, hterm⟩
  obtain ⟨terms, hterms⟩ : (keys.filter (start field ≤ ·)).filter (· < stop field) ∈
      Set.range (List.map (encode field)) := by
    rw [Set.range_list_map]
    exact hmem
  refine ⟨keys.filter (· < start field), terms,
    (keys.filter (start field ≤ ·)).filter (stop field ≤ ·), ?_, ?_, ?_, ?_⟩
  · rw [hterms, List.append_assoc, ← habove]
    exact hbelow
  · have hascending : Bytes.Ascending (terms.map (encode field)) := by
      rw [hterms]
      exact List.Pairwise.filter _ (List.Pairwise.filter _ h)
    exact (List.pairwise_map.mp hascending).imp lt_of_encode_lt
  · intro key hkey
    simpa using (List.mem_filter.mp hkey).2
  · intro key hkey
    simpa using (List.mem_filter.mp hkey).2

theorem start_le_encode (field term : Bytes) : start field ≤ encode field term :=
  List.le_append_left

theorem encode_lt_stop (field term : Bytes) : encode field term < stop field := by
  have hin : inField field (encode field term) = true := inField_iff.mpr ⟨term, rfl⟩
  rw [inField, Bool.and_eq_true, decide_eq_true_iff, decide_eq_true_iff] at hin
  exact hin.2

/-- A key is split into the field and the term that it was made of, whatever stands in the term. The key
of an accepted field and an accepted term is no other one's key and lies in no other field's range, be
they accepted or not. So in ascending order the keys of a field are one run, and within it in the order of
their terms. A key without a separator, and no other one, cannot be split. -/
theorem keys_tell_fields_apart :
    (∀ field term : Bytes, ¬ separatorBytes <:+: field →
      decode (encode field term) = .ok (field, term)) ∧
    (∀ f t : Bytes, IsField f → IsTerm t → ∀ field term : Bytes,
      (encode field term = encode f t → field = f ∧ term = t) ∧
      (start field ≤ encode f t ∧ encode f t < stop field ↔ field = f)) ∧
    (∀ keys : List Bytes, Bytes.Ascending keys →
      (∀ key ∈ keys, ∃ f t, IsField f ∧ IsTerm t ∧ key = encode f t) →
      ∀ field : Bytes, ∃ below terms above, keys = below ++ terms.map (encode field) ++ above ∧
        Bytes.Ascending terms ∧ (∀ term ∈ terms, decode (encode field term) = .ok (field, term)) ∧
        ∀ key ∈ below ++ above, ∀ term, key ≠ encode field term ∧ decode key ≠ .ok (field, term)) ∧
    ∀ key : Bytes,
      (decode key = .error (.format "fields FST key without separator") ↔
        ¬ separatorBytes <:+: key) ∧
      ((∃ parts, decode key = .ok parts) ↔ separatorBytes <:+: key) := by
  refine ⟨fun field term h => decode_encode h term, ?_, ?_,
    fun key => ⟨decode_eq_error_iff, exists_decode_iff⟩⟩
  · intro f t hf ht field term
    have hf := not_isInfix_of_isPlain hf.isPlain
    have ht := not_isInfix_of_isPlain ht.isPlain
    refine ⟨encode_inj hf ht, ?_⟩
    rw [← inField_encode hf ht, inField, Bool.and_eq_true, decide_eq_true_iff, decide_eq_true_iff]
  · intro keys hascending hkeys field
    obtain ⟨below, terms, above, hsplit, hterms, hbelow, habove⟩ := exists_run hascending field
    refine ⟨below, terms, above, hsplit, hterms, ?_, ?_⟩
    · intro term hterm
      have hmem : encode field term ∈ keys := by
        rw [hsplit]
        exact List.mem_append_left _ (List.mem_append_right _ (List.mem_map_of_mem hterm))
      obtain ⟨f, t, hf, ht, hkey⟩ := hkeys _ hmem
      have hf := not_isInfix_of_isPlain hf.isPlain
      obtain ⟨rfl, -⟩ := encode_inj hf (not_isInfix_of_isPlain ht.isPlain) hkey
      exact decode_encode hf term
    · intro key hkey term
      have hne : key ≠ encode field term := by
        intro heq
        rw [heq] at hkey
        rcases List.mem_append.mp hkey with hmem | hmem
        · exact List.not_lt.mpr (start_le_encode field term) (hbelow _ hmem)
        · exact List.not_lt.mpr (habove _ hmem) (encode_lt_stop field term)
      exact ⟨hne, fun hdecode => hne (decode_eq_ok_iff.mp hdecode).1⟩

/-- A name that goes on from another one, and a value with bytes above the separator. -/
theorem keys_tell_fields_apart_nested :
    ∃ t : Bytes, t = [0xF0, 0x9F, 0x98, 0x80] ∧ IsField [97] ∧ IsTerm t ∧
      decode (encode [97] t) = .ok ([97], t) ∧
      (start [97] ≤ encode [97] t ∧ encode [97] t < stop [97]) ∧
      ¬ (start [97, 98] ≤ encode [97] t ∧ encode [97] t < stop [97, 98]) ∧
      encode [97, 0xEE, 0x80] t ≠ encode [97] t ∧
      ∃ below terms above, [encode [97, 98] [], encode [97] t] =
        below ++ terms.map (encode [97]) ++ above ∧ Bytes.Ascending terms ∧ [] ∉ terms := by
  obtain ⟨hdecode, hkey, hrun, -⟩ := keys_tell_fields_apart
  obtain ⟨d, hd, hvalid⟩ : ∃ d : Document, d = ⟨some [120], [⟨[97], [0xF0, 0x9F, 0x98, 0x80]⟩,
      ⟨[97, 98], []⟩]⟩ ∧ d.validate = .ok () := ⟨_, rfl, rfl⟩
  have hfield : IsField [97] := .inr ⟨d, hvalid, ⟨[97], [0xF0, 0x9F, 0x98, 0x80]⟩, by simp [hd], rfl⟩
  have hlonger : IsField [97, 98] := .inr ⟨d, hvalid, ⟨[97, 98], []⟩, by simp [hd], rfl⟩
  have hterm : IsTerm [0xF0, 0x9F, 0x98, 0x80] :=
    ⟨d, hvalid, .inr ⟨⟨[97], [0xF0, 0x9F, 0x98, 0x80]⟩, by simp [hd], rfl⟩⟩
  have hempty : IsTerm [] := ⟨d, hvalid, .inr ⟨⟨[97, 98], []⟩, by simp [hd], rfl⟩⟩
  have hbeside := mt (hkey _ _ hfield hterm [97, 98] []).2.mp (by decide)
  have hkeys : ∀ key ∈ [encode [97, 98] [], encode [97] [0xF0, 0x9F, 0x98, 0x80]],
      ∃ f t, IsField f ∧ IsTerm t ∧ key = encode f t := by
    intro key hmem
    rw [List.mem_cons, List.mem_singleton] at hmem
    rcases hmem with rfl | rfl
    · exact ⟨_, _, hlonger, hempty, rfl⟩
    · exact ⟨_, _, hfield, hterm, rfl⟩
  obtain ⟨below, terms, above, hsplit, hterms, -, -⟩ :=
    hrun _ (List.pairwise_pair.mpr (by decide)) hkeys [97]
  refine ⟨_, rfl, hfield, hterm, hdecode _ _ (by decide), (hkey _ _ hfield hterm [97] []).2.mpr rfl,
    hbeside, fun h => ?_, below, terms, above, hsplit, hterms, fun hnil => ?_⟩
  · have hsame := ((hkey _ _ hfield hterm _ _).1 h).1
    cases hsame
  · have hmem : encode [97] [] ∈ [encode [97, 98] [], encode [97] [0xF0, 0x9F, 0x98, 0x80]] := by
      rw [hsplit]
      exact List.mem_append_left _ (List.mem_append_right _ (List.mem_map_of_mem hnil))
    revert hmem
    decide

end InvertedIndex.Segment.Key
