import InvertedIndex.Proofs.Dictionary
import Mathlib.Data.List.Sort

namespace InvertedIndex.Dictionary

section

variable {d : Dictionary} {log : Log} {field value : Bytes}

/-- The value is no text, or its pattern is not too large. -/
def CanLookUp (value : Bytes) : Prop :=
  Utf8.isValid value = false ∨ ∃ p, Pattern.literal value = .ok p

/-- Where a value can be looked up, both strategies have an answer. -/
theorem matchExact_eq_ok (d : Dictionary) (field : Bytes) (h : CanLookUp value) :
    ∃ a, d.matchExact field value = .ok a := by
  cases ha : d.matchExact field value with
  | ok a => exact ⟨a, rfl⟩
  | error e =>
    obtain ⟨-, hvalid, hliteral⟩ := matchExact_eq_error ha
    cases h with
    | inl h =>
      rw [hvalid] at h
      cases h
    | inr h =>
      obtain ⟨p, hp⟩ := h
      rw [hliteral] at hp
      cases hp

theorem exists_containsTerm_eq_ok (d : Dictionary) (field : Bytes) (h : CanLookUp value) :
    ∃ b, d.containsTerm field value = .ok b := by
  cases d with
  | exact d => exact ⟨_, rfl⟩
  | trigram d =>
    obtain ⟨a, ha⟩ := matchExact_eq_ok (.trigram d) field h
    obtain ⟨found, hfound, -⟩ := Results.map_eq_ok ha
    refine ⟨!found.isEmpty, ?_⟩
    rw [containsTerm, hfound]
    rfl

/-- A pattern can be asked for if its text has a query. -/
theorem matchPattern_eq_ok (d : Dictionary) (field : Bytes) {p : Pattern} {q : Trigram.Query}
    (hq : InvertedIndex.Trigram.Query.ofPattern p.text = .ok q) :
    ∃ a, d.matchPattern field p = .ok a := by
  cases d with
  | exact d => exact ⟨_, rfl⟩
  | trigram d =>
    refine ⟨.fixed (d.verify field p (d.evaluate field q)), ?_⟩
    rw [matchPattern, Trigram.matchPattern, hq]
    rfl

/-- A field is known if some document has a value in it. -/
theorem containsField_iff (h : d.Represents log) :
    d.containsField field = true ↔ ∃ id value, (id, ⟨field, value⟩) ∈ log := by
  cases d with
  | exact d => exact h.holds_field field
  | trigram d =>
    refine (h.grams.holds_field field).trans (exists_congr fun id => ?_)
    simp only [mem_gramLog_iff]
    constructor
    · intro hgram
      obtain ⟨gram, value, hmem, -⟩ := hgram
      exact ⟨value, hmem⟩
    · intro hvalue
      obtain ⟨value, hmem⟩ := hvalue
      exact ⟨Trigram.anyValue, value, hmem, by simp [Trigram.gramsOf]⟩

end

section

variable {d d' : Dictionary} {log : Log}

/-- Answers list the same numbers if they have the same ones. -/
theorem toList_read_eq {a a' : Answer} (ha : (d.read a).Proper) (ha' : (d'.read a').Proper)
    (h : ∀ id, (d.read a).contains id = true ↔ (d'.read a').contains id = true) :
    (d.read a).toList = (d'.read a').toList := by
  apply (Postings.ascending_toList ha).eq_of_mem_iff (Postings.ascending_toList ha')
  intro id
  rw [Postings.mem_toList ha, Postings.mem_toList ha', h]

theorem containsField_agrees (h : d.Represents log) (h' : d'.Represents log) (field : Bytes) :
    d.containsField field = d'.containsField field := by
  rw [Bool.eq_iff_iff, containsField_iff h, containsField_iff h']

theorem fieldNames_agrees (h : d.Represents log) (h' : d'.Represents log) :
    d.fieldNames = d'.fieldNames := by
  apply d.entries.fields.ascending.eq_of_mem_iff d'.entries.fields.ascending
  intro field
  have hagree := containsField_agrees h h' field
  rw [Bool.eq_iff_iff] at hagree
  exact ByteMap.mem_keys_iff.trans (hagree.trans ByteMap.mem_keys_iff.symm)

theorem matchField_agrees (h : d.Represents log) (h' : d'.Represents log) (field : Bytes) :
    (d.read (d.matchField field)).toList = (d'.read (d'.matchField field)).toList := by
  apply toList_read_eq (proper_read_matchField h h rfl) (proper_read_matchField h' h' rfl)
  intro id
  rw [contains_read_matchField h h rfl fun _ => Iff.rfl,
    contains_read_matchField h' h' rfl fun _ => Iff.rfl]

theorem matchExact_agrees (h : d.Represents log) (h' : d'.Represents log) (field : Bytes)
    {value : Bytes} (hvalue : CanLookUp value) :
    ∃ a a', d.matchExact field value = .ok a ∧ d'.matchExact field value = .ok a' ∧
      (d.read a).toList = (d'.read a').toList := by
  obtain ⟨a, ha⟩ := matchExact_eq_ok d field hvalue
  obtain ⟨a', ha'⟩ := matchExact_eq_ok d' field hvalue
  refine ⟨a, a', ha, ha', ?_⟩
  apply toList_read_eq (proper_read_matchExact h rfl ha) (proper_read_matchExact h' rfl ha')
  intro id
  rw [contains_read_matchExact h h rfl ha fun _ => Iff.rfl,
    contains_read_matchExact h' h' rfl ha' fun _ => Iff.rfl]

theorem containsTerm_agrees (h : d.Represents log) (h' : d'.Represents log) (field : Bytes)
    {value : Bytes} (hvalue : CanLookUp value) :
    ∃ b, d.containsTerm field value = .ok b ∧ d'.containsTerm field value = .ok b := by
  obtain ⟨b, hb⟩ := exists_containsTerm_eq_ok d field hvalue
  obtain ⟨b', hb'⟩ := exists_containsTerm_eq_ok d' field hvalue
  have heq : b = b' := by
    rw [Bool.eq_iff_iff, containsTerm_eq_ok h hb, containsTerm_eq_ok h' hb']
  exact ⟨b, hb, by rw [heq, hb']⟩

/-- A pattern that both strategies can search for finds the same numbers. -/
theorem matchPattern_agrees (h : d.Represents log) (h' : d'.Represents log) (field : Bytes)
    {p : Pattern} (hp : Pattern.compile p.text = .ok p) {q : Trigram.Query}
    (hq : InvertedIndex.Trigram.Query.ofPattern p.text = .ok q) :
    ∃ a a', d.matchPattern field p = .ok a ∧ d'.matchPattern field p = .ok a' ∧
      (d.read a).toList = (d'.read a').toList := by
  obtain ⟨a, ha⟩ := matchPattern_eq_ok d field hq
  obtain ⟨a', ha'⟩ := matchPattern_eq_ok d' field hq
  refine ⟨a, a', ha, ha', ?_⟩
  apply toList_read_eq (proper_read_matchPattern h ha) (proper_read_matchPattern h' ha')
  intro id
  rw [contains_read_matchPattern h hp ha, contains_read_matchPattern h' hp ha']

end

/-- What insertions make of an empty dictionary. -/
def fill (strategy : Strategy) (inserts : Log) : Dictionary :=
  inserts.foldl (fun d (id, f) => d.insert f id) (new strategy)

theorem strategy_fill (strategy : Strategy) (inserts : Log) :
    (fill strategy inserts).strategy = strategy := by
  have hkeep : ∀ d : Dictionary,
      (inserts.foldl (fun d (id, f) => d.insert f id) d).strategy = d.strategy := by
    induction inserts with
    | nil => exact fun _ => rfl
    | cons e inserts ih => exact fun d => (ih _).trans (strategy_insert d e.2 e.1)
  rw [fill, hkeep]
  cases strategy <;> rfl

theorem represents_foldl_insert {d : Dictionary} {log : Log} (h : d.Represents log) {inserts : Log}
    (htext : ∀ e ∈ inserts, Utf8.isValid e.2.value = true) :
    (inserts.foldl (fun d (id, f) => d.insert f id) d).Represents (inserts ++ log) := by
  induction inserts generalizing d log with
  | nil => exact h
  | cons e inserts ih =>
    obtain ⟨id, f⟩ := e
    have hinsert := represents_insert h (htext (id, f) (by simp)) id
    exact (ih hinsert fun e he => htext e (by simp [he])).of_mem_iff fun e => List.perm_middle.mem_iff

/-- A dictionary that was filled with text holds what it was filled with. -/
theorem represents_fill (strategy : Strategy) {inserts : Log}
    (htext : ∀ e ∈ inserts, Utf8.isValid e.2.value = true) :
    (fill strategy inserts).Represents inserts := by
  have hfill := represents_foldl_insert (represents_new strategy) htext
  rwa [List.append_nil] at hfill

/-- Whatever texts are inserted for whatever fields and numbers, the two strategies answer the same:
on fields always, on values that can be looked up, and on patterns whose text has a query. -/
theorem strategies_agree (inserts : Log) (htext : ∀ e ∈ inserts, Utf8.isValid e.2.value = true) :
    (fill .exact inserts).strategy = .exact ∧ (fill .trigram inserts).strategy = .trigram ∧
      (∀ field, ((fill .exact inserts).read ((fill .exact inserts).matchField field)).toList =
        ((fill .trigram inserts).read ((fill .trigram inserts).matchField field)).toList) ∧
      (∀ field, (fill .exact inserts).containsField field =
        (fill .trigram inserts).containsField field) ∧
      (fill .exact inserts).fieldNames = (fill .trigram inserts).fieldNames ∧
      (∀ field value, CanLookUp value →
        (∃ a a', (fill .exact inserts).matchExact field value = .ok a ∧
          (fill .trigram inserts).matchExact field value = .ok a' ∧
          ((fill .exact inserts).read a).toList = ((fill .trigram inserts).read a').toList) ∧
        ∃ b, (fill .exact inserts).containsTerm field value = .ok b ∧
          (fill .trigram inserts).containsTerm field value = .ok b) ∧
      ∀ field text p q, Pattern.compile text = .ok p →
        InvertedIndex.Trigram.Query.ofPattern text = .ok q →
        ∃ a a', (fill .exact inserts).matchPattern field p = .ok a ∧
          (fill .trigram inserts).matchPattern field p = .ok a' ∧
          ((fill .exact inserts).read a).toList = ((fill .trigram inserts).read a').toList := by
  have hexact := represents_fill .exact htext
  have htrigram := represents_fill .trigram htext
  refine ⟨strategy_fill _ inserts, strategy_fill _ inserts, matchField_agrees hexact htrigram,
    containsField_agrees hexact htrigram, fieldNames_agrees hexact htrigram, ?_, ?_⟩
  · intro field value hvalue
    exact ⟨matchExact_agrees hexact htrigram field hvalue,
      containsTerm_agrees hexact htrigram field hvalue⟩
  · intro field text p q hp hq
    obtain ⟨htext, -⟩ := Pattern.compile_eq_ok hp
    rw [← htext] at hp hq
    exact matchPattern_agrees hexact htrigram field hp hq

/-- Two values of one field under one number, and an empty value under the next one. -/
def letters : Log := [(3, ⟨[110], [97]⟩), (3, ⟨[110], [97, 98, 99, 100]⟩), (4, ⟨[110], []⟩)]

/-- Trigrams find the number that has the value, although one value is too short to have any. -/
theorem strategies_agree_letters :
    ((fill .trigram letters).read ((fill .trigram letters).matchField [110])).toList = [3, 4] ∧
      (∃ a, (fill .trigram letters).matchExact [110] [97] = .ok a ∧
        ((fill .trigram letters).read a).toList = [3]) ∧
      (fill .trigram letters).containsTerm [110] [255] = .ok false ∧
      ∃ p a, Pattern.compile ['a', '(', 'b', 'c', ')', 'd'] = .ok p ∧
        (fill .trigram letters).matchPattern [110] p = .ok a ∧
        ((fill .trigram letters).read a).toList = [3] := by
  have htext : ∀ e ∈ letters, Utf8.isValid e.2.value = true := by decide +kernel
  obtain ⟨-, -, hfield, -, -, hvalue, hpattern⟩ := strategies_agree letters htext
  refine ⟨?_, ?_, ?_, ?_⟩
  · rw [← hfield]
    decide +kernel
  · obtain ⟨⟨a, a', ha, ha', hlist⟩, -⟩ := hvalue [110] [97] (.inr ⟨_, rfl⟩)
    refine ⟨a', ha', ?_⟩
    rw [← hlist]
    cases ha
    decide +kernel
  · obtain ⟨-, b, hb, hb'⟩ := hvalue [110] [255] (.inl (by decide +kernel))
    rw [hb', ← hb]
    rfl
  · obtain ⟨p, hp, a, ha, hread⟩ : ∃ p, Pattern.compile ['a', '(', 'b', 'c', ')', 'd'] = .ok p ∧
        ∃ a, (fill .exact letters).matchPattern [110] p = .ok a ∧
          ((fill .exact letters).read a).toList = [3] := ⟨_, rfl, _, rfl, by decide +kernel⟩
    obtain ⟨a₁, a', ha₁, ha', hlist⟩ := hpattern [110] _ p _ hp rfl
    obtain rfl : a = a₁ := Except.ok.inj (ha.symm.trans ha₁)
    exact ⟨p, a', hp, ha', hlist.symm.trans hread⟩

end InvertedIndex.Dictionary
