import InvertedIndex.Dictionary
import InvertedIndex.Proofs.Dictionary.Trigram

namespace InvertedIndex.Dictionary

/-- The dictionary holds the pairs of a log and no other. -/
def Represents (d : Dictionary) (log : Log) : Prop :=
  match d with
  | exact d => d.Represents log
  | trigram d => d.Represents log

theorem represents_new (strategy : Strategy) : (new strategy).Represents [] :=
  match strategy with
  | .exact => Exact.represents_empty
  | .trigram => Trigram.represents_empty

/-- An insertion adds one pair, whatever the strategy. -/
theorem represents_insert {d : Dictionary} {log : Log} (h : d.Represents log) {f : Field}
    (hf : Utf8.isValid f.value = true) (id : PostingsId) :
    (d.insert f id).Represents ((id, f) :: log) :=
  match d, h with
  | exact _, h => Exact.represents_insert h f id
  | trigram _, h => Trigram.represents_insert h f hf id

theorem Represents.of_mem_iff {d : Dictionary} {log log' : Log} (h : d.Represents log)
    (hlog : ∀ e, e ∈ log ↔ e ∈ log') : d.Represents log' :=
  match d, h with
  | exact _, h => Exact.Represents.of_mem_iff h hlog
  | trigram _, h => Trigram.Represents.of_mem_iff h hlog

@[simp] theorem strategy_insert (d : Dictionary) (f : Field) (id : PostingsId) :
    (d.insert f id).strategy = d.strategy := by
  cases d <;> rfl

/-- The dictionary has not lost or gained anything under the number. -/
def AgreeOn (log log' : Log) (id : PostingsId) : Prop := ∀ f, (id, f) ∈ log' ↔ (id, f) ∈ log

theorem agreeOn_gramLog {log log' : Log} {id : PostingsId} (h : AgreeOn log log' id) :
    AgreeOn (gramLog log) (gramLog log') id := by
  rintro ⟨field, gram⟩
  rw [mem_gramLog_iff, mem_gramLog_iff]
  exact exists_congr fun value => and_congr_left fun _ => h ⟨field, value⟩

theorem proper_read_liveAnswer {e : Exact} {log' : Log} (d' : Dictionary)
    (h' : d'.entries.Represents log') (field term : Bytes) :
    (d'.read (liveAnswer e field term)).Proper := by
  unfold liveAnswer
  split
  · exact h'.proper field term
  · exact Postings.proper_empty

/-- An entry that is read later says the same of documents that were there already. -/
theorem contains_read_liveAnswer {e : Exact} {log log' : Log} (d' : Dictionary)
    (h : e.Represents log) (h' : d'.entries.Represents log') {field term : Bytes}
    {id : PostingsId} (hid : AgreeOn log log' id) :
    (d'.read (liveAnswer e field term)).contains id = true ↔ (id, ⟨field, term⟩) ∈ log := by
  unfold liveAnswer
  split
  · exact (h'.holds field term id).trans (hid ⟨field, term⟩)
  · next hterm =>
    have hnot : (id, ⟨field, term⟩) ∉ log := fun hmem =>
      hterm ((h.holds_term field term).mpr ⟨id, hmem⟩)
    simp [read, hnot]

variable {d d' : Dictionary} {log log' : Log} {field value : Bytes} {a : Answer}

theorem proper_read_matchExact (h' : d'.Represents log') (hs : d'.strategy = d.strategy)
    (ha : d.matchExact field value = .ok a) : (d'.read a).Proper := by
  cases d with
  | exact e =>
    cases d' with
    | trigram e' => cases hs
    | exact e' =>
      cases ha
      exact proper_read_liveAnswer (.exact e') h' field value
  | trigram e =>
    obtain ⟨found, hfound, rfl⟩ := Results.map_eq_ok ha
    exact Trigram.proper_matchExact hfound

theorem contains_read_matchExact (h : d.Represents log) (h' : d'.Represents log')
    (hs : d'.strategy = d.strategy) (ha : d.matchExact field value = .ok a) {id : PostingsId}
    (hid : AgreeOn log log' id) :
    (d'.read a).contains id = true ↔ (id, ⟨field, value⟩) ∈ log := by
  cases d with
  | exact e =>
    cases d' with
    | trigram e' => cases hs
    | exact e' =>
      cases ha
      exact contains_read_liveAnswer (.exact e') h h' hid
  | trigram e =>
    obtain ⟨found, hfound, rfl⟩ := Results.map_eq_ok ha
    exact Trigram.contains_matchExact h hfound id

theorem proper_read_matchField (h : d.Represents log) (h' : d'.Represents log')
    (hs : d'.strategy = d.strategy) : (d'.read (d.matchField field)).Proper := by
  cases d with
  | exact e => exact Exact.proper_having h field fun _ => true
  | trigram e =>
    cases d' with
    | exact e' => cases hs
    | trigram e' =>
      exact proper_read_liveAnswer (.trigram e') (Trigram.Represents.grams h') field _

theorem contains_read_matchField (h : d.Represents log) (h' : d'.Represents log')
    (hs : d'.strategy = d.strategy) {id : PostingsId} (hid : AgreeOn log log' id) :
    (d'.read (d.matchField field)).contains id = true ↔ ∃ value, (id, ⟨field, value⟩) ∈ log := by
  cases d with
  | exact e =>
    refine (Exact.contains_having h field (fun _ => true) id).trans (exists_congr fun value => ?_)
    exact and_iff_left rfl
  | trigram e =>
    cases d' with
    | exact e' => cases hs
    | trigram e' =>
      refine (contains_read_liveAnswer (.trigram e') (Trigram.Represents.grams h)
        (Trigram.Represents.grams h') (agreeOn_gramLog hid)).trans ?_
      rw [mem_gramLog_iff]
      exact exists_congr fun value => by simp [Trigram.gramsOf]

theorem proper_read_matchPattern (h : d.Represents log) {p : Pattern}
    (ha : d.matchPattern field p = .ok a) : (d'.read a).Proper := by
  cases d with
  | exact e =>
    cases ha
    exact Exact.proper_having h field _
  | trigram e =>
    obtain ⟨found, hfound, rfl⟩ := Results.map_eq_ok ha
    exact Trigram.proper_matchPattern hfound

/-- Patterns are answered once and for all. -/
theorem contains_read_matchPattern (h : d.Represents log) {p : Pattern}
    (hp : Pattern.compile p.text = .ok p) (ha : d.matchPattern field p = .ok a) (id : PostingsId) :
    (d'.read a).contains id = true ↔
      ∃ value, (id, ⟨field, value⟩) ∈ log ∧ p.isMatch value = true := by
  cases d with
  | exact e =>
    cases ha
    exact Exact.contains_having h field _ id
  | trigram e =>
    obtain ⟨found, hfound, rfl⟩ := Results.map_eq_ok ha
    exact Trigram.contains_matchPattern h field hp hfound id

theorem containsTerm_eq_ok (h : d.Represents log) {b : Bool}
    (hb : d.containsTerm field value = .ok b) : b = true ↔ ∃ id, (id, ⟨field, value⟩) ∈ log := by
  cases d with
  | exact e =>
    cases hb
    exact h.holds_term field value
  | trigram e =>
    obtain ⟨found, hfound, rfl⟩ := Results.map_eq_ok hb
    rw [Bool.not_eq_true', Trigram.isEmpty_matchExact hfound]
    exact exists_congr fun id => Trigram.contains_matchExact h hfound id

/-- A lookup fails only under the strategy that needs a pattern for it, if that is too large. -/
theorem matchExact_eq_error {e : Error} (he : d.matchExact field value = .error e) :
    d.strategy = .trigram ∧ Utf8.isValid value = true ∧ Pattern.literal value = .error e := by
  cases d with
  | exact t => cases he
  | trigram t =>
    exact ⟨rfl, Trigram.matchExact_eq_error (Results.map_eq_error he)⟩

/-- Only a value whose own pattern is refused has no answer. -/
theorem containsTerm_eq_error {e : Error} (he : d.containsTerm field value = .error e) :
    d.strategy = .trigram ∧ Utf8.isValid value = true ∧ Pattern.literal value = .error e := by
  cases d with
  | exact t => cases he
  | trigram t => exact ⟨rfl, Trigram.matchExact_eq_error (Results.map_eq_error he)⟩

/-- With trigrams, a text that could be looked up has a pattern. -/
theorem literal_eq_ok_of_containsTerm (hs : d.strategy = .trigram)
    (hvalid : Utf8.isValid value = true) {b : Bool} (hb : d.containsTerm field value = .ok b) :
    ∃ p, Pattern.literal value = .ok p := by
  cases d with
  | exact t => cases hs
  | trigram t =>
    obtain ⟨found, hfound, -⟩ := Results.map_eq_ok hb
    rcases Trigram.matchExact_eq_ok hfound with ⟨hnot, -⟩ | ⟨p, hp, -⟩
    · rw [hvalid] at hnot
      cases hnot
    · exact ⟨p, hp⟩

end InvertedIndex.Dictionary
