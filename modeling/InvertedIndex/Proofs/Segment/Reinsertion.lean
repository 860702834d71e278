import InvertedIndex.Proofs.Segment.Accounting

namespace InvertedIndex.Segment.Mutable

/-- The documents are valid, and the segment has their identifiers, which are all different. -/
structure Knows (s : Mutable) (ds : List Document) : Prop where
  valid : ∀ d ∈ ds, d.validate = .ok ()
  found : ∀ d ∈ ds, ∃ id, d.id = some id ∧ s.containsIdentifier id = .ok true
  distinct : (ds.map Document.id).Nodup

variable {s s' : Mutable} {docs ds : List Document}

namespace Resolution

/-- Documents whose identifiers were not met before leave no trace but these. -/
theorem run_known (hknows : s.Knows ds) {seen : List Bytes}
    (hunmet : ∀ id ∈ seen, some id ∉ ds.map Document.id) (isPartial : Bool) (k : Nat) :
    ∃ seen', Resolution.run isPartial ⟨s, seen, [], []⟩ (validFrom k ds) =
      (⟨s, seen', [], []⟩, none) := by
  induction ds generalizing seen k with
  | nil => exact ⟨seen, rfl⟩
  | cons d ds ih =>
    obtain ⟨hvalid, hfound, hdistinct⟩ := hknows
    rw [List.forall_mem_cons] at hvalid hfound
    rw [List.map_cons, List.nodup_cons] at hdistinct
    obtain ⟨id, hid, hknown⟩ := hfound.1
    have hfresh : id ∉ seen := by
      intro hmem
      exact hunmet id hmem (by rw [List.map_cons, hid]; exact List.mem_cons_self)
    have hstep := step_given_known (r := ⟨s, seen, [], []⟩) hid hfresh hknown isPartial k
    have hlater : ∀ x ∈ id :: seen, some x ∉ ds.map Document.id := by
      rw [List.forall_mem_cons]
      refine ⟨hid ▸ hdistinct.1, fun x hx hmem => hunmet x hx ?_⟩
      exact List.mem_cons_of_mem _ hmem
    obtain ⟨seen', hrest⟩ := ih ⟨hvalid.2, hfound.2, hdistinct.2⟩ hlater (k + 1)
    refine ⟨seen', ?_⟩
    rw [validFrom_cons, hvalid.1]
    simp only [Except.toBool, if_true, Resolution.run, hstep, hrest]

end Resolution

theorem invalidIn_eq_nil {b : Batch} (hvalid : ∀ d ∈ b.documents, d.validate = .ok ()) :
    invalidIn b = [] := by
  rw [invalidIn, List.filterMap_eq_nil_iff]
  rintro ⟨d, i⟩ hmem
  have hd := hvalid d (List.mem_of_getElem? (List.mem_zipIdx_iff_getElem?.mp hmem))
  simp only [hd]

/-- Documents that are known are passed over without a trace. -/
theorem Knows.insertBatch (hknows : s.Knows ds) (hw : s.checkWritable = .ok ()) (isPartial : Bool) :
    s.insertBatch ⟨ds, isPartial⟩ = ⟨s, ⟨ds, isPartial⟩, .ok ()⟩ := by
  have hinvalid : invalidIn ⟨ds, isPartial⟩ = [] := invalidIn_eq_nil hknows.valid
  have hnone : ∀ id ∈ ([] : List Bytes), some id ∉ ds.map Document.id := by simp
  obtain ⟨seen, hrun⟩ := Resolution.run_known hknows hnone isPartial 0
  have hvalidIn : validIn ⟨ds, isPartial⟩ = Resolution.validFrom 0 ds := rfl
  rw [Mutable.insertBatch, hw]
  cases isPartial <;>
    simp only [insertBatchWritable, hinvalid, hvalidIn, List.reverse_nil, hrun] <;> rfl

theorem query_eq_ok {α : Type} {f : Dictionary → Except Error α} {a : α} (h : s.query f = .ok a) :
    f s.dictionary = .ok a := by
  unfold query at h
  split at h
  · cases h
  · exact h

/-- What a segment knows it goes on knowing. -/
theorem Knows.of_grows (hknows : s.Knows ds) (hdocs : s.Represents docs) (hgrows : Grows s s') :
    s'.Knows ds where
  valid := hknows.valid
  found := by
    intro d hd
    obtain ⟨id, hid, hknown⟩ := hknows.found d hd
    obtain ⟨more, hmore⟩ := hgrows.documents docs hdocs
    obtain ⟨c, hc⟩ := exists_containsIdentifier_eq_ok hgrows.strategy hknown
    have hmem := (hdocs.containsIdentifier_iff hknown).mp rfl
    have hlater : some id ∈ (docs ++ more).map Document.id := by
      rw [List.map_append]
      exact List.mem_append_left _ hmem
    obtain rfl := (hmore.containsIdentifier_iff hc).mpr hlater
    exact ⟨id, hid, hc⟩
  distinct := hknows.distinct

theorem Completes.not_refused {b : Batch} {r : Resolution} (h : Completes s docs b r)
    (hok : (s.insertBatch b).result = .ok ()) (i : Nat) : ¬ Refused s docs b.documents i := by
  have hnone : r.failures = [] := by
    rw [h.result] at hok
    split at hok
    · next hempty => exact List.isEmpty_iff.mp hempty
    · cases hok
  rw [← h.accounts.mem_listed, Resolution.listed, hnone]
  exact List.not_mem_nil

/-- A batch that goes through as a whole is known afterwards. -/
theorem Represents.knows_insertBatch (hdocs : s.Represents docs) {b : Batch}
    (hok : (s.insertBatch b).result = .ok ()) :
    (s.insertBatch b).segment.Knows (s.insertBatch b).batch.documents := by
  obtain ⟨r, h⟩ := hdocs.completes (.inl hok)
  have hkept := h.not_refused hok
  rw [h.segment, h.documents]
  constructor
  · intro d hd
    obtain ⟨i, hi⟩ := List.mem_iff_getElem?.mp hd
    obtain ⟨e, he, rfl⟩ := h.accounts.written_of_kept (hkept i) hi
    obtain ⟨e', he', hvalid, hfine, -⟩ := resolves_of_kept he (hkept i)
    rw [he, Option.some.injEq] at he'
    exact Document.validate_with_id (he' ▸ hvalid) hfine
  · intro d hd
    obtain ⟨i, hi⟩ := List.mem_iff_getElem?.mp hd
    obtain ⟨id, hid, hfound⟩ := h.accounts.found h.represents h.writable (hkept i) hi
    exact ⟨id, hid, query_eq_ok hfound⟩
  · rw [List.Nodup, List.pairwise_map, List.pairwise_iff_getElem]
    intro i j hi hj hlt hsame
    obtain ⟨d, hd, hdi⟩ := h.accounts.written_of_kept (hkept i) (List.getElem?_eq_getElem hi)
    obtain ⟨e, he, hej⟩ := h.accounts.written_of_kept (hkept j) (List.getElem?_eq_getElem hj)
    rw [hdi, hej, Option.some.injEq] at hsame
    -- The later of two documents with one identifier would have been refused.
    have hresolves := resolves_of_kept hd (hkept i)
    rw [hsame] at hresolves
    exact hkept j (.repeated he hlt hresolves)

end InvertedIndex.Segment.Mutable

namespace InvertedIndex.Segment.Session

/-- A batch that went through as a whole may be inserted again whenever the segment can still be written
to: its documents have identifiers of their own by then, which the segment has as well, so that the segment
stays as it is, no identifier is drawn, and the batch is left as it is. -/
theorem reinsertion_changes_nothing {options : Options} {generator : Nat → Bytes} {before : List Op}
    {b : Batch}
    (hok : (((new options generator).run before).segment.insertBatch b).result = .ok ())
    {later : List Op}
    (hw : ((new options generator).run (before ++ .insertBatch b :: later)).segment.checkWritable =
      .ok ()) :
    ((new options generator).run (before ++ .insertBatch b :: later)).segment.Knows
        (((new options generator).run before).segment.insertBatch b).batch.documents ∧
      ((new options generator).run (before ++ .insertBatch b :: later)).segment.insertBatch
          (((new options generator).run before).segment.insertBatch b).batch =
        ⟨((new options generator).run (before ++ .insertBatch b :: later)).segment,
          (((new options generator).run before).segment.insertBatch b).batch, .ok ()⟩ := by
  obtain ⟨docs, hdocs⟩ := represents_run_new options generator before
  have hfirst := hdocs.knows_insertBatch hok
  obtain ⟨more, hmore⟩ :=
    (Mutable.grows_insertBatch ((new options generator).run before).segment b).documents docs hdocs
  have hrun : (new options generator).run (before ++ .insertBatch b :: later) =
      (((new options generator).run before).apply (.insertBatch b)).run later := run_append ..
  have hgrows := grows_run (((new options generator).run before).apply (.insertBatch b)) later
  rw [← hrun] at hgrows
  have hknows := hfirst.of_grows hmore hgrows
  exact ⟨hknows, hknows.insertBatch hw _⟩

/-- One document of the batch gets its identifier drawn, one is indexed already, and one is new. The same
identifier would be drawn again. -/
theorem reinsertion_changes_nothing_drawn :
    ∃ s t : Mutable, ∃ b again : Batch,
      s = ((new ⟨0, 5, .exact⟩ fun _ => [103]).run [.insert (letter 97)]).segment ∧
      b = ⟨[{ letter 0 with id := none }, letter 97, letter 98], false⟩ ∧
      t = ((new ⟨0, 5, .exact⟩ fun _ => [103]).run [.insert (letter 97), .insertBatch b,
        .tombstone [98], .openReader, .insert (letter 99)]).segment ∧
      (s.insertBatch b).result = .ok () ∧ (s.insertBatch b).batch = again ∧
      t.checkWritable = .ok () ∧ (t.watermark, t.drawn) = (9, 1) ∧
      again.documents = [letter 103, letter 97, letter 98] ∧
      t.insertBatch again = ⟨t, again, .ok ()⟩ := by
  have hok : (((new ⟨0, 5, .exact⟩ fun _ => [103]).run [.insert (letter 97)]).segment.insertBatch
      ⟨[{ letter 0 with id := none }, letter 97, letter 98], false⟩).result = .ok () := rfl
  have hw : ((new ⟨0, 5, .exact⟩ fun _ => [103]).run ([.insert (letter 97)] ++
      .insertBatch ⟨[{ letter 0 with id := none }, letter 97, letter 98], false⟩ ::
        [.tombstone [98], .openReader, .insert (letter 99)])).segment.checkWritable = .ok () := rfl
  obtain ⟨-, hagain⟩ := reinsertion_changes_nothing hok hw
  exact ⟨_, _, _, _, rfl, rfl, rfl, hok, rfl, rfl, rfl, rfl, hagain⟩

end InvertedIndex.Segment.Session
