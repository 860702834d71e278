import InvertedIndex.Dictionary.Trigram
import InvertedIndex.Proofs.Dictionary.Exact
import InvertedIndex.Proofs.Trigram.Pattern

namespace InvertedIndex.Dictionary

open InvertedIndex.Trigram (Query windows mem_windows)

/-- The pairs of a field and a trigram that stand for a log. -/
def gramLog (log : Log) : Log :=
  log.flatMap fun (id, f) => (Trigram.gramsOf f.value).map fun gram => (id, ⟨f.name, gram⟩)

/-- A trigram is noted under a number if a value in the field has it. -/
theorem mem_gramLog_iff {log : Log} {id : PostingsId} {field gram : Bytes} :
    (id, ⟨field, gram⟩) ∈ gramLog log ↔
      ∃ value, (id, ⟨field, value⟩) ∈ log ∧ gram ∈ Trigram.gramsOf value := by
  rw [gramLog, List.mem_flatMap]
  constructor
  · rintro ⟨⟨i, f⟩, he, hmem⟩
    obtain ⟨g, hg, heq⟩ := List.mem_map.mp hmem
    cases heq
    exact ⟨f.value, he, hg⟩
  · rintro ⟨value, he, hg⟩
    exact ⟨(id, ⟨field, value⟩), he, List.mem_map.mpr ⟨gram, hg, rfl⟩⟩

/-- The trigrams of all values that a document has in a field. -/
def windowsIn (log : Log) (field : Bytes) (id : PostingsId) : List InvertedIndex.Trigram :=
  log.flatMap fun (i, f) => if i = id ∧ f.name = field then windows f.value else []

theorem mem_windowsIn_iff {log : Log} {field : Bytes} {id : PostingsId}
    {t : InvertedIndex.Trigram} :
    t ∈ windowsIn log field id ↔ ∃ value, (id, ⟨field, value⟩) ∈ log ∧ t ∈ windows value := by
  rw [windowsIn, List.mem_flatMap]
  constructor
  · rintro ⟨⟨i, name, value⟩, he, hmem⟩
    simp only at hmem
    split at hmem
    · next heq =>
      obtain ⟨rfl, rfl⟩ := heq
      exact ⟨value, he, hmem⟩
    · cases hmem
  · rintro ⟨value, he, ht⟩
    exact ⟨(id, ⟨field, value⟩), he, by simpa using ht⟩

/-- The dictionary keeps a log of texts, and the trigrams of it. -/
structure Trigram.Represents (d : Trigram) (log : Log) : Prop where
  grams : d.grams.Represents (gramLog log)
  mem_log (e : PostingsId × Field) : e ∈ d.log ↔ e ∈ log
  isText (id : PostingsId) (f : Field) : (id, f) ∈ log → Utf8.isValid f.value = true

namespace Trigram

theorem represents_empty : Trigram.empty.Represents [] where
  grams := Exact.represents_empty
  mem_log _ := Iff.rfl
  isText _ _ h := absurd h List.not_mem_nil

theorem represents_foldl_insert {d : Exact} {log : Log} (h : d.Represents log) (name : Bytes)
    (id : PostingsId) (grams : List Bytes) :
    (grams.foldl (fun d gram => d.insert name gram id) d).Represents
      (grams.map (fun gram => (id, ⟨name, gram⟩)) ++ log) := by
  induction grams generalizing d log with
  | nil => exact h
  | cons gram grams ih =>
    rw [List.map_cons]
    exact (ih (Exact.represents_insert h ⟨name, gram⟩ id)).of_mem_iff fun e => List.perm_middle.mem_iff

/-- What was inserted is kept as trigrams and as fields to test. -/
theorem represents_insert {d : Trigram} {log : Log} (h : d.Represents log) (f : Field)
    (hf : Utf8.isValid f.value = true) (id : PostingsId) :
    (d.insert f id).Represents ((id, f) :: log) where
  grams := represents_foldl_insert h.grams f.name id (gramsOf f.value)
  mem_log e := by
    rw [insert, List.mem_cons, List.mem_cons, h.mem_log]
  isText i g hmem := by
    rcases List.mem_cons.mp hmem with heq | hmem
    · cases heq
      exact hf
    · exact h.isText i g hmem

theorem Represents.of_mem_iff {d : Trigram} {log log' : Log} (h : d.Represents log)
    (hlog : ∀ e, e ∈ log ↔ e ∈ log') : d.Represents log' where
  grams := by
    refine h.grams.of_mem_iff fun ⟨id, field, gram⟩ => ?_
    simp only [mem_gramLog_iff, hlog]
  mem_log e := (h.mem_log e).trans (hlog e)
  isText id f hmem := h.isText id f ((hlog (id, f)).mpr hmem)

/-- Each value leaves a mark, also one that is too short for a trigram. -/
theorem contains_matchField {d : Trigram} {log : Log} (h : d.grams.Represents (gramLog log))
    (field : Bytes) (id : PostingsId) :
    (d.matchField field).contains id = true ↔ ∃ value, (id, ⟨field, value⟩) ∈ log := by
  rw [matchField, h.holds, mem_gramLog_iff]
  exact ⟨fun ⟨value, hmem, _⟩ => ⟨value, hmem⟩, fun ⟨value, hmem⟩ => ⟨value, hmem, by simp [gramsOf]⟩⟩

theorem toBytes_mem_gramsOf {t : InvertedIndex.Trigram} {value : Bytes} :
    t.toBytes ∈ gramsOf value ↔ t ∈ windows value := by
  have hne : t.toBytes ≠ anyValue := by simp [InvertedIndex.Trigram.toBytes, anyValue]
  rw [gramsOf, List.mem_cons, or_iff_right hne, List.mem_map]
  constructor
  · rintro ⟨u, hu, heq⟩
    obtain rfl : u = t := by
      cases u
      cases t
      simpa [InvertedIndex.Trigram.toBytes] using heq
    exact hu
  · exact fun ht => ⟨t, ht, rfl⟩

section Evaluation

variable {d : Trigram} {log : Log}

/-- What the operations keep with which a query is evaluated. -/
structure Kept (P : Postings → Prop) : Prop where
  empty : P ∅
  inter {p : Postings} (q : Postings) : P p → P (p.inter q)
  union {p q : Postings} : P p → P q → P (p.union q)

theorem kept_proper : Kept Postings.Proper where
  empty := Postings.proper_empty
  inter q hp := Postings.proper_inter hp q
  union hp hq := Postings.proper_union hp hq.keyed

section

variable {P : Postings → Prop}

mutual

/-- What every entry has and the set operations keep, all candidates have. -/
theorem Kept.evaluate (hP : Kept P) (h : ∀ field gram, P (d.grams.postings field gram)) (field : Bytes) :
    (q : Query) → P (d.evaluate field q)
  | .all => by
    rw [Trigram.evaluate]
    exact h field anyValue
  | .none => by
    rw [Trigram.evaluate]
    exact hP.empty
  | .trigram t => by
    rw [Trigram.evaluate]
    exact h field t.toBytes
  | .and [] => by
    rw [Trigram.evaluate]
    exact h field anyValue
  | .and (q :: qs) => by
    rw [Trigram.evaluate]
    exact hP.evaluateAll field (hP.evaluate h field q) qs
  | .or qs => by
    rw [Trigram.evaluate]
    exact hP.evaluateAny h field qs

theorem Kept.evaluateAll (hP : Kept P) (field : Bytes) {found : Postings} (hfound : P found) :
    (qs : List Query) → P (d.evaluateAll field found qs)
  | [] => by rwa [Trigram.evaluateAll]
  | q :: qs => by
    rw [Trigram.evaluateAll]
    split
    · exact hfound
    · exact hP.evaluateAll field (hP.inter _ hfound) qs

theorem Kept.evaluateAny (hP : Kept P) (h : ∀ field gram, P (d.grams.postings field gram))
    (field : Bytes) : (qs : List Query) → P (d.evaluateAny field qs)
  | [] => by
    rw [Trigram.evaluateAny]
    exact hP.empty
  | q :: qs => by
    rw [Trigram.evaluateAny]
    exact hP.union (hP.evaluate h field q) (hP.evaluateAny h field qs)

end

end

theorem proper_evaluate (h : d.grams.Represents (gramLog log)) (field : Bytes) (q : Query) :
    (d.evaluate field q).Proper := kept_proper.evaluate h.proper field q

mutual

/-- The candidates of a query are the documents with the field whose trigrams satisfy it. -/
theorem contains_evaluate (h : d.grams.Represents (gramLog log)) (field : Bytes) (id : PostingsId) :
    (q : Query) → ((d.evaluate field q).contains id = true ↔
      (∃ value, (id, ⟨field, value⟩) ∈ log) ∧ q.holds (windowsIn log field id) = true)
  | .all => by
    rw [evaluate, contains_matchField h]
    simp [Query.holds]
  | .none => by
    rw [evaluate, Postings.contains_empty]
    simp [Query.holds]
  | .trigram t => by
    rw [evaluate, h.holds, mem_gramLog_iff, Query.holds, List.contains_iff_mem,
      mem_windowsIn_iff]
    simp only [toBytes_mem_gramsOf]
    exact ⟨fun ⟨value, hmem, ht⟩ => ⟨⟨value, hmem⟩, value, hmem, ht⟩, And.right⟩
  | .and [] => by
    rw [evaluate, contains_matchField h]
    simp [Query.holds, Query.holdsAll]
  | .and (q :: qs) => by
    have hq := contains_evaluate h field id q
    rw [evaluate, contains_evaluateAll h field id (proper_evaluate h field q)
      (fun hid => (hq.mp hid).1) qs, hq, Query.holds, Query.holdsAll, Bool.and_eq_true, and_assoc]
  | .or qs => by
    rw [evaluate, contains_evaluateAny h field id qs, Query.holds]

theorem contains_evaluateAll (h : d.grams.Represents (gramLog log)) (field : Bytes) (id : PostingsId)
    {found : Postings} (hfound : found.Proper)
    (hfield : found.contains id = true → ∃ value, (id, ⟨field, value⟩) ∈ log) :
    (qs : List Query) → ((d.evaluateAll field found qs).contains id = true ↔
      found.contains id = true ∧ Query.holdsAll (windowsIn log field id) qs = true)
  | [] => by
    rw [evaluateAll]
    simp [Query.holdsAll]
  | q :: qs => by
    have hq := contains_evaluate h field id q
    rw [evaluateAll]
    split
    · next hempty => simp [Postings.contains_of_isEmpty hempty]
    · have hinter := Postings.contains_inter hfound.ordered (d.evaluate field q) id
      rw [contains_evaluateAll h field id (Postings.proper_inter hfound _)
        (fun hid => hfield (by rw [hinter, Bool.and_eq_true] at hid; exact hid.1)) qs, hinter,
        Bool.and_eq_true, hq, Query.holdsAll, Bool.and_eq_true]
      constructor
      · rintro ⟨⟨hid, _, hhold⟩, hall⟩
        exact ⟨hid, hhold, hall⟩
      · rintro ⟨hid, hhold, hall⟩
        exact ⟨⟨hid, hfield hid, hhold⟩, hall⟩

theorem contains_evaluateAny (h : d.grams.Represents (gramLog log)) (field : Bytes) (id : PostingsId) :
    (qs : List Query) → ((d.evaluateAny field qs).contains id = true ↔
      (∃ value, (id, ⟨field, value⟩) ∈ log) ∧
        Query.holdsAny (windowsIn log field id) qs = true)
  | [] => by
    rw [evaluateAny, Postings.contains_empty]
    simp [Query.holdsAny]
  | q :: qs => by
    rw [evaluateAny, Postings.contains_union (proper_evaluate h field q).ordered
      (kept_proper.evaluateAny h.proper field qs).ordered, Bool.or_eq_true, contains_evaluate h field id q,
      contains_evaluateAny h field id qs, Query.holdsAny, Bool.or_eq_true, and_or_left]

end

end Evaluation

theorem proper_verify (d : Trigram) (field : Bytes) (p : Pattern) (candidates : Postings) :
    (d.verify field p candidates).Proper := Postings.proper_ofList _

/-- Of the candidates those are left that have a value which the pattern matches. -/
theorem contains_verify {d : Trigram} {log : Log} (h : d.Represents log) (field : Bytes)
    (p : Pattern) {candidates : Postings} (hc : candidates.Proper) (id : PostingsId) :
    (d.verify field p candidates).contains id = true ↔
      candidates.contains id = true ∧
        ∃ value, (id, ⟨field, value⟩) ∈ log ∧ p.isMatch value = true := by
  rw [verify, Postings.contains_ofList, List.contains_iff_mem, List.mem_filter,
    Postings.mem_toList hc, List.any_eq_true]
  refine and_congr_right fun _ => ?_
  constructor
  · rintro ⟨⟨i, name, value⟩, hinserted, htest⟩
    obtain ⟨hmem, hname⟩ := List.mem_filter.mp hinserted
    simp only [Bool.and_eq_true, decide_eq_true_eq] at htest hname
    obtain ⟨rfl, hmatch⟩ := htest
    obtain rfl : field = name := hname.symm
    exact ⟨value, (h.mem_log _).mp hmem, hmatch⟩
  · rintro ⟨value, hmem, hmatch⟩
    exact ⟨(id, ⟨field, value⟩), List.mem_filter.mpr ⟨(h.mem_log _).mpr hmem, by simp⟩,
      by simpa using hmatch⟩

/-- A pattern whose text has a query finds the documents with a value that it matches. -/
theorem contains_matchPattern {d : Trigram} {log : Log} (h : d.Represents log) (field : Bytes)
    {p : Pattern} (hp : Pattern.compile p.text = .ok p) {found : Postings}
    (hfound : d.matchPattern field p = .ok found) (id : PostingsId) :
    found.contains id = true ↔ ∃ value, (id, ⟨field, value⟩) ∈ log ∧ p.isMatch value = true := by
  obtain ⟨q, hq, rfl⟩ := Results.map_eq_ok hfound
  rw [contains_verify h field p (proper_evaluate h.grams field q), contains_evaluate h.grams field id q]
  refine and_iff_right_of_imp fun ⟨value, hmem, hmatch⟩ => ⟨⟨value, hmem⟩, ?_⟩
  refine Query.holds_of_subset (fun t ht => ?_) q
    (InvertedIndex.Trigram.holds_ofPattern_of_isMatch hq hp hmatch)
  exact mem_windowsIn_iff.mpr ⟨value, hmem, ht⟩

theorem proper_matchPattern {d : Trigram} {field : Bytes} {p : Pattern} {found : Postings}
    (hfound : d.matchPattern field p = .ok found) : found.Proper := by
  obtain ⟨q, -, rfl⟩ := Results.map_eq_ok hfound
  exact proper_verify d field p _

/-- A pair is looked for by the pattern of its value, which has no other match. -/
theorem matchExact_of_literal (d : Trigram) (field : Bytes) {value : Bytes} {p : Pattern}
    (hp : Pattern.literal value = .ok p) :
    ∃ q, Query.ofPattern p.text = .ok q ∧
      d.matchExact field value = .ok (d.verify field p (d.evaluate field q)) := by
  obtain ⟨cs, rfl, hcompile⟩ := Pattern.literal_eq_ok hp
  obtain ⟨htext, -⟩ := Pattern.compile_quote hcompile
  have hq := InvertedIndex.Trigram.ofPattern_quote cs
  rw [← htext] at hq
  refine ⟨_, hq, ?_⟩
  have hvalid : Utf8.isValid (Utf8.encode cs) = true := by
    rw [Utf8.isValid, Utf8.decode_encode]
    rfl
  rw [matchExact, if_pos hvalid, hp]
  simp only [matchPattern, hq, Except.map]

/-- A value is looked up by its own pattern. One that is no text belongs to no document. -/
theorem matchExact_eq_ok {d : Trigram} {field value : Bytes} {found : Postings}
    (h : d.matchExact field value = .ok found) :
    (Utf8.isValid value = false ∧ found = ∅) ∨
      ∃ p, Pattern.literal value = .ok p ∧ d.matchPattern field p = .ok found := by
  unfold matchExact at h
  split at h
  · split at h
    · cases h
    · next p hp => exact .inr ⟨p, hp, h⟩
  · next hvalid => exact .inl ⟨by simpa using hvalid, (Except.ok.inj h).symm⟩

theorem compile_of_literal {value : Bytes} {p : Pattern} (h : Pattern.literal value = .ok p) :
    Pattern.compile p.text = .ok p := by
  obtain ⟨cs, -, hcompile⟩ := Pattern.literal_eq_ok h
  rwa [(Pattern.compile_eq_ok hcompile).1]

/-- The numbers that are found for a value are those which have it. -/
theorem contains_matchExact {d : Trigram} {log : Log} (h : d.Represents log)
    {field value : Bytes} {found : Postings} (hfound : d.matchExact field value = .ok found)
    (id : PostingsId) : found.contains id = true ↔ (id, ⟨field, value⟩) ∈ log := by
  rcases matchExact_eq_ok hfound with ⟨hvalid, rfl⟩ | ⟨p, hp, hmatch⟩
  · have hnot : (id, ⟨field, value⟩) ∉ log := by
      intro hmem
      have htext := h.isText id _ hmem
      rw [hvalid] at htext
      cases htext
    simp [hnot]
  · rw [contains_matchPattern h field (compile_of_literal hp) hmatch]
    simp only [Pattern.isMatch_literal hp]
    exact ⟨fun ⟨_, hmem, heq⟩ => heq ▸ hmem, fun hmem => ⟨value, hmem, rfl⟩⟩

theorem proper_matchExact {d : Trigram} {field value : Bytes} {found : Postings}
    (hfound : d.matchExact field value = .ok found) : found.Proper := by
  rcases matchExact_eq_ok hfound with ⟨-, rfl⟩ | ⟨p, -, hmatch⟩
  · exact Postings.proper_empty
  · exact proper_matchPattern hmatch

/-- A lookup fails only if the value is text whose pattern is too large. -/
theorem matchExact_eq_error {d : Trigram} {field value : Bytes} {e : Error}
    (h : d.matchExact field value = .error e) :
    Utf8.isValid value = true ∧ Pattern.literal value = .error e := by
  cases hp : Pattern.literal value with
  | ok p =>
    obtain ⟨q, -, hfound⟩ := matchExact_of_literal d field hp
    rw [hfound] at h
    cases h
  | error e' =>
    unfold matchExact at h
    rw [hp] at h
    split at h
    · next hvalid => exact ⟨hvalid, by simpa using h⟩
    · cases h

/-- The answer to a lookup has a block just if it has a member. -/
theorem isEmpty_matchExact {d : Trigram} {field value : Bytes} {found : Postings}
    (hfound : d.matchExact field value = .ok found) :
    found.isEmpty = false ↔ ∃ id, found.contains id = true := by
  rcases matchExact_eq_ok hfound with ⟨-, rfl⟩ | ⟨p, -, hmatch⟩
  · simp [Postings.contains_empty]
    rfl
  · obtain ⟨q, -, rfl⟩ := Results.map_eq_ok hmatch
    exact Postings.isEmpty_ofList_iff _

end Trigram

end InvertedIndex.Dictionary
