import InvertedIndex.Proofs.Segment.Accounting
import InvertedIndex.Proofs.Segment.Readers

namespace InvertedIndex.Segment.Mutable

/-- The document at a place of a batch, with the identifier that it has or that is drawn for it. -/
def filled (s : Mutable) (ds : List Document) (i : Nat) : Option Document :=
  ds[i]?.map fun d => { d with id := some (offered s ds i d) }

/-- The places of a batch whose documents are new: they are not listed as failures, and no document of
the segment has the identifier that they were given. -/
def newPlaces (docs ds : List Document) (listed : List Nat) : List Nat :=
  (List.range ds.length).filter fun i => i ∉ listed ∧ ds[i]?.bind Document.id ∉ docs.map Document.id

/-- What an insertion adds to the documents of a segment: if it succeeds, its document. -/
def appendedOne (s : Mutable) (d : Document) : List Document :=
  match (s.insert d).result with
  | .ok _ => [{ d with id := some (d.id.getD (s.generator s.drawn)) }]
  | .error _ => []

/-- What a batch adds to the documents of a segment: in their order, those that its result does not list
as failures and that the segment did not have. A batch that fails as a whole adds nothing. -/
def appendedBatch (s : Mutable) (docs : List Document) (b : Batch) : List Document :=
  match (s.insertBatch b).result with
  | .ok () => (newPlaces docs b.documents []).filterMap (s.filled b.documents)
  | .error (.partialBatch failures) =>
    (newPlaces docs b.documents (failures.map Prod.fst)).filterMap (s.filled b.documents)
  | .error _ => []

variable {s : Mutable} {docs ds : List Document} {d : Document} {b : Batch} {i : Nat}

theorem offered_of_identify {s' : Mutable} {id : Bytes} {isDrawn : Bool}
    (h : s.identify d = (.ok (id, isDrawn), s')) : id = d.id.getD (s.generator s.drawn) := by
  unfold identify at h
  split at h
  · next x hx =>
    cases h
    rw [hx, Option.getD_some]
  · next hx =>
    obtain ⟨x, hx', hpair⟩ := Results.map_eq_ok (congrArg Prod.fst h)
    obtain ⟨-, -, hdrawn⟩ := Results.map_eq_ok hx'
    rw [hx, Option.getD_none, hdrawn]
    exact (congrArg Prod.fst hpair).symm

/-- An insertion adds what its result says. -/
theorem Represents.insert (h : s.Represents docs) (d : Document) :
    (s.insert d).segment.Represents (docs ++ s.appendedOne d) := by
  rcases insert_cases s d with ⟨⟨e, he⟩, hsame⟩ | ⟨s', id, isDrawn, hidentify, -, -, -, heq⟩
  · rw [appendedOne, he, List.append_nil]
    exact h.of_same hsame
  · have hresult : (s.insert d).result = .ok s'.watermark := by rw [heq]
    have hdocument : (s.insert d).document = { d with id := some id } := by rw [heq]
    rw [appendedOne, hresult, ← offered_of_identify hidentify, ← hdocument]
    exact (represents_insert h hresult).1

/-- A document is committed if it is not refused and the identifier that it was given is new. -/
theorem exists_commits_iff (hdocs : ∀ e ∈ docs, e.id.isSome = true) :
    (∃ d', Commits s docs ds i d') ↔
      i < ds.length ∧ ¬ Refused s docs ds i ∧ ds[i]?.bind Document.id ∉ docs.map Document.id := by
  constructor
  · rintro ⟨d', d, hd, hkept, hnew, -⟩
    refine ⟨(List.getElem?_eq_some_iff.mp hd).1, hkept, ?_⟩
    intro hindexed
    rw [hd, Option.bind_some] at hindexed
    cases hid : d.id with
    | none =>
      rw [hid] at hindexed
      obtain ⟨e, he, hnone⟩ := List.mem_map.mp hindexed
      have hsome := hdocs e he
      rw [hnone] at hsome
      cases hsome
    | some id =>
      rw [offered, hid, Option.getD_some] at hnew
      rw [hid] at hindexed
      exact hnew hindexed
  · rintro ⟨hlt, hkept, hnew⟩
    have hd : ds[i]? = some ds[i] := List.getElem?_eq_getElem hlt
    by_contra hnone
    obtain ⟨id, hid, hindexed⟩ := indexed_of_passed hd hkept (not_exists.mp hnone)
    rw [hd, Option.bind_some, hid] at hnew
    exact hnew hindexed

theorem filled_of_commits {d' : Document} (h : Commits s docs ds i d') : s.filled ds i = some d' := by
  obtain ⟨d, hd, -, -, rfl⟩ := h
  rw [filled, hd, Option.map_some]

namespace Resolution

variable {r : Resolution}

theorem Accounts.places_eq (h : r.Accounts s docs ds ds.length)
    (hdocs : ∀ e ∈ docs, e.id.isSome = true) : r.places = newPlaces docs ds r.listed := by
  apply h.ascending_places.eq_of_mem_iff (List.pairwise_lt_range.filter _)
  intro i
  rw [h.mem_places, exists_commits_iff hdocs, List.mem_filter, List.mem_range, decide_eq_true_iff,
    h.mem_listed]

theorem Accounts.added_eq (h : r.Accounts s docs ds ds.length) :
    r.added = r.places.filterMap (s.filled ds) := by
  rw [places, added, List.filterMap_map, ← List.filterMap_eq_map]
  apply List.filterMap_congr
  intro p hp
  exact (filled_of_commits ((h.accepted p.1 p.2).mp (List.mem_reverse.mp hp)).2).symm

end Resolution

/-- The documents that a batch commits can be told from the batch and its result. -/
theorem Completes.appendedBatch_eq {r : Resolution} (h : Completes s docs b r)
    (hdocs : ∀ e ∈ docs, e.id.isSome = true) : s.appendedBatch docs b = r.added := by
  rw [h.accounts.added_eq, h.accounts.places_eq hdocs, appendedBatch, h.result, Resolution.listed]
  cases hfailures : r.failures with
  | nil => rfl
  | cons p rest => simp only [List.isEmpty_cons, Bool.false_eq_true, if_false, List.map_reverse]

/-- A batch adds what its result says. -/
theorem Represents.insertBatch (h : s.Represents docs) (b : Batch) :
    (s.insertBatch b).segment.Represents (docs ++ s.appendedBatch docs b) := by
  rcases isDone_or_refused s b with hdone | ⟨e, he, hpartial⟩
  · obtain ⟨r, hr⟩ := h.completes hdone
    rw [hr.appendedBatch_eq h.identified, hr.segment]
    exact hr.represents
  · obtain ⟨-, -, n, -, hsegment⟩ := insertBatch_eq_error he hpartial
    have hnothing : s.appendedBatch docs b = [] := by
      rw [appendedBatch, he]
      cases e with
      | partialBatch failures => exact absurd rfl (hpartial failures)
      | _ => rfl
    rw [hnothing, List.append_nil, hsegment]
    exact h.of_same ⟨rfl, rfl, rfl, rfl⟩

end InvertedIndex.Segment.Mutable

namespace InvertedIndex.Segment.Session

open Mutable (idAt hasTerm)

/-- What an operation adds to the documents of a segment. -/
def appended (s : Session) (docs : List Document) : Op → List Document
  | .insert d => s.segment.appendedOne d
  | .insertBatch b => s.segment.appendedBatch docs b
  | _ => []

/-- The documents of a segment after some operations, by what the calls were and how they ended. -/
def history (s : Session) (docs : List Document) : List Op → List Document
  | [] => docs
  | op :: ops => (s.apply op).history (docs ++ s.appended docs op) ops

variable {s : Session} {docs : List Document}

theorem represents_apply (h : s.segment.Represents docs) (op : Op) :
    (s.apply op).segment.Represents (docs ++ s.appended docs op) := by
  cases op with
  | insert d => exact h.insert d
  | insertBatch b => exact h.insertBatch b
  | _ => simpa only [appended, List.append_nil] using h.of_same (same_apply s (by simp) (by simp))

/-- A segment holds what the calls have added to it. -/
theorem represents_run (h : s.segment.Represents docs) (ops : List Op) :
    (s.run ops).segment.Represents (s.history docs ops) := by
  induction ops generalizing s docs with
  | nil => exact h
  | cons op ops ih => exact ih (represents_apply h op)

theorem history_append (s : Session) (docs : List Document) (ops later : List Op) :
    s.history docs (ops ++ later) = (s.run ops).history (s.history docs ops) later := by
  induction ops generalizing s docs with
  | nil => rfl
  | cons op ops ih => exact ih (s.apply op) (docs ++ s.appended docs op)

/-- What was appended stays where it is. -/
theorem history_eq_append (s : Session) (docs : List Document) (ops : List Op) :
    ∃ more, s.history docs ops = docs ++ more := by
  induction ops generalizing s docs with
  | nil => exact ⟨[], docs.append_nil.symm⟩
  | cons op ops ih =>
    obtain ⟨more, hmore⟩ := ih (s.apply op) (docs ++ s.appended docs op)
    rw [List.append_assoc] at hmore
    exact ⟨s.appended docs op ++ more, hmore⟩

/-- After any operations the segment holds the documents that the calls took in, in the order in which
they did. These are valid and have distinct identifiers, and the slots, the watermark and
the dictionary are theirs. Whatever is called later, they come first. -/
theorem run_new_holds_documents (options : Options) (generator : Nat → Bytes) (ops : List Op) :
    ∃ docs, (new options generator).history [] ops = docs ∧
      ((new options generator).run ops).segment.Represents docs ∧
      ((new options generator).run ops).segment.committed = .ok docs ∧
      ((new options generator).run ops).segment.offset = options.offset ∧
      options.offset.toNat + docs.length ≤ PostingsId.last.toNat ∧
      (∀ i < docs.length, (idAt options.offset i).toNat = options.offset.toNat + i ∧
        idAt options.offset i ≠ PostingsId.last) ∧
      (∀ field value,
        match ((new options generator).run ops).segment.dictionary.matchExact field value with
        | .ok a => ∀ id,
          (((new options generator).run ops).segment.dictionary.read a).contains id = true ↔
            ∃ i d, docs[i]? = some d ∧ id = idAt options.offset i ∧
              (⟨field, value⟩ ∈ d.fields ∨ field = Document.idField ∧ d.id = some value)
        | .error e => options.strategy = .trigram ∧ Pattern.literal value = .error e) ∧
      ∀ later, ∃ more, (new options generator).history [] (ops ++ later) = docs ++ more ∧
        ((new options generator).run (ops ++ later)).segment.Represents (docs ++ more) ∧
        ∀ i < docs.length,
          ((new options generator).run (ops ++ later)).segment.document? (idAt options.offset i) =
            docs[i]? := by
  have hnew : (new options generator).segment.Represents [] :=
    Mutable.represents_new options generator
  have hdocs := represents_run hnew ops
  have hoffset := offset_run_new options generator ops
  have hstrategy := strategy_run_new options generator ops
  have hbound := hdocs.offset_add_length_le
  rw [hoffset] at hbound
  refine ⟨_, rfl, hdocs, hdocs.committed_eq, hoffset, hbound, ?_, ?_, ?_⟩
  · intro i hi
    have hnat := hdocs.toNat_idAt hi
    have hne := hdocs.idAt_ne_last hi
    rw [hoffset] at hnat hne
    exact ⟨hnat, hne⟩
  · intro field value
    split
    · next a ha =>
      intro id
      rw [Dictionary.contains_read_matchExact hdocs.dictionary hdocs.dictionary rfl ha
        (fun _ => Iff.rfl), hoffset, Mutable.mem_logOf]
      simp only [← Mutable.hasTerm_iff, hasTerm, decide_eq_true_iff]
    · next e he =>
      obtain ⟨htrigram, -, hliteral⟩ := Dictionary.matchExact_eq_error he
      exact ⟨hstrategy.symm.trans htrigram, hliteral⟩
  · intro later
    have hgrows := grows_run ((new options generator).run ops) later
    have hstays (i : Nat) (hi : i < ((new options generator).history [] ops).length) :=
      hgrows.document?_idAt hdocs hi
    obtain ⟨more, hmore⟩ := history_eq_append ((new options generator).run ops)
      ((new options generator).history [] ops) later
    have hlater := represents_run hdocs later
    rw [hmore] at hlater
    rw [← run_append] at hstays hlater
    rw [hoffset] at hstays
    rw [history_append]
    exact ⟨more, hmore, hlater, hstays⟩

/-- The second document has the identifier that was drawn for the first and is refused. -/
example : (new ⟨0, 5, .exact⟩ fun _ => [103]).history []
    [.insert ⟨none, [⟨[110], [118]⟩]⟩, .insert ⟨some [103], [⟨[110], [119]⟩]⟩] =
      [⟨some [103], [⟨[110], [118]⟩]⟩] := by rfl

end InvertedIndex.Segment.Session
