import InvertedIndex.Proofs.Segment.Session

namespace InvertedIndex.Segment.Mutable

/-- The segment after `n` more identifiers were drawn. -/
def drawMore (s : Mutable) (n : Nat) : Mutable := { s with drawn := s.drawn + n }

/-- The document has no identifier, so one is drawn for it. -/
def isAnonymous (d : Document) : Bool := !d.hasId

/-- How many identifiers are drawn for a document. -/
def draws (d : Document) : Nat := if isAnonymous d then 1 else 0

/-- What a write as a whole can be refused for. -/
def isRefusal : Error → Bool
  | .closed _ | .isSealed | .invalidDocument _ | .duplicateId _ | .outOfBounds _
  | .invalidPattern _ => true
  | _ => false

theorem drawMore_drawMore (s : Mutable) (m n : Nat) :
    (s.drawMore m).drawMore n = s.drawMore (m + n) := by
  simp only [drawMore, Nat.add_assoc]

theorem isRefusal_of_checkWritable {s : Mutable} {e : Error} (h : s.checkWritable = .error e) :
    isRefusal e = true := by
  unfold checkWritable at h
  split at h
  · rw [← Except.error.inj h]
    rfl
  · split at h
    · rw [← Except.error.inj h]
      rfl
    · cases h

theorem isRefusal_of_validate {d : Document} {e : Error} (h : d.validate = .error e) :
    isRefusal e = true := by
  obtain ⟨reason, rfl⟩ := Document.validate_eq_error h
  rfl

theorem isRefusal_of_identify {s : Mutable} {d : Document} {e : Error}
    (h : (s.identify d).1 = .error e) : isRefusal e = true := by
  unfold identify at h
  split at h
  · cases h
  · obtain ⟨reason, rfl⟩ :=
      Document.validateId_eq_error (Results.map_eq_error (Results.map_eq_error h))
    rfl

theorem isRefusal_of_containsIdentifier {s : Mutable} {id : Bytes} {e : Error}
    (h : s.containsIdentifier id = .error e) : isRefusal e = true := by
  obtain ⟨-, -, hliteral⟩ := Dictionary.containsTerm_eq_error h
  obtain ⟨reason, rfl⟩ := Pattern.literal_eq_error hliteral
  rfl

/-- Only a document without an identifier takes one from the generator. -/
theorem identify_snd (s : Mutable) (d : Document) : (s.identify d).2 = s.drawMore (draws d) := by
  unfold identify draws isAnonymous Document.hasId
  cases d.id <;> rfl

theorem insertWritable_eq_error {s : Mutable} {d : Document} {e : Error}
    (h : (s.insertWritable d).result = .error e) :
    isRefusal e = true ∧ (s.insertWritable d).document = d ∧
      (s.insertWritable d).segment = s.drawMore (draws d) := by
  have hdrawn := identify_snd s d
  unfold insertWritable at h ⊢
  split at h
  · next e' t hidentify =>
    rw [hidentify] at hdrawn
    have hrefused := isRefusal_of_identify (congrArg Prod.fst hidentify)
    rw [← Except.error.inj h]
    exact ⟨hrefused, rfl, hdrawn⟩
  · next id isDrawn t hidentify =>
    rw [hidentify] at hdrawn
    split at h
    · next e' hlookup =>
      rw [← Except.error.inj h]
      exact ⟨isRefusal_of_containsIdentifier hlookup, rfl, hdrawn⟩
    · rw [← Except.error.inj h]
      exact ⟨rfl, rfl, hdrawn⟩
    · split at h
      · next hfull =>
        rw [if_pos hfull, ← Except.error.inj h]
        exact ⟨rfl, rfl, hdrawn⟩
      · cases h

/-- An insertion that is refused has drawn an identifier at most. -/
theorem insert_eq_error {s : Mutable} {d : Document} {e : Error}
    (h : (s.insert d).result = .error e) :
    isRefusal e = true ∧ (s.insert d).document = d ∧
      ∃ n ≤ draws d, (s.insert d).segment = s.drawMore n := by
  unfold insert at h ⊢
  split at h
  · next e' hcheck =>
    rw [← Except.error.inj h]
    exact ⟨isRefusal_of_checkWritable hcheck, rfl, 0, Nat.zero_le _, rfl⟩
  · split at h
    · next e' hvalid =>
      rw [← Except.error.inj h]
      exact ⟨isRefusal_of_validate hvalid, rfl, 0, Nat.zero_le _, rfl⟩
    · obtain ⟨hrefused, hdocument, hsegment⟩ := insertWritable_eq_error h
      exact ⟨hrefused, hdocument, _, Nat.le_refl _, hsegment⟩

namespace Resolution

variable (r : Resolution) (isPartial : Bool)

theorem refuse_segment (index : Nat) (e : Error) :
    (r.refuse isPartial index e).1.segment = r.segment := by
  unfold refuse
  split <;> rfl

theorem refuse_eq_some {index : Nat} {e e' : Error}
    (h : (r.refuse isPartial index e).2 = some e') : e = e' := by
  unfold refuse at h
  split at h
  · cases h
  · exact Option.some.inj h

/-- Resolving a document changes nothing of the segment but what is drawn for it. -/
theorem step_segment (index : Nat) (d : Document) :
    (r.step isPartial index d).1.segment = r.segment.drawMore (draws d) := by
  have hdrawn := identify_snd r.segment d
  unfold step
  split
  · next e t hidentify =>
    rw [refuse_segment]
    rwa [hidentify] at hdrawn
  · next id isDrawn t hidentify =>
    rw [hidentify] at hdrawn
    dsimp only
    split
    · rw [refuse_segment]
      exact hdrawn
    · split
      · exact hdrawn
      · split
        · rw [refuse_segment]
          exact hdrawn
        · exact hdrawn
      · exact hdrawn

theorem isRefusal_of_step {index : Nat} {d : Document} {e : Error}
    (h : (r.step isPartial index d).2 = some e) : isRefusal e = true := by
  unfold step at h
  split at h
  · next e' t hidentify =>
    rw [← refuse_eq_some _ _ h]
    exact isRefusal_of_identify (congrArg Prod.fst hidentify)
  · next id isDrawn t hidentify =>
    dsimp only at h
    split at h
    · rw [← refuse_eq_some _ _ h]
      rfl
    · split at h
      · next e' hlookup =>
        rw [← Option.some.inj h]
        exact isRefusal_of_containsIdentifier hlookup
      · split at h
        · rw [← refuse_eq_some _ _ h]
          rfl
        · cases h
      · cases h

theorem run_segment (ds : List (Nat × Document)) :
    ∃ n ≤ ds.countP fun p => isAnonymous p.2,
      (run isPartial r ds).1.segment = r.segment.drawMore n := by
  induction ds generalizing r with
  | nil => exact ⟨0, Nat.le_refl _, rfl⟩
  | cons p ds ih =>
    obtain ⟨index, d⟩ := p
    have hstep := step_segment r isPartial index d
    have hcount : ((index, d) :: ds).countP (fun p => isAnonymous p.2) =
        ds.countP (fun p => isAnonymous p.2) + draws d := List.countP_cons
    rw [run, hcount]
    split
    · next t e hfail =>
      rw [hfail] at hstep
      exact ⟨draws d, Nat.le_add_left _ _, hstep⟩
    · next t hgoes =>
      rw [hgoes] at hstep
      obtain ⟨n, hn, hrest⟩ := ih t
      refine ⟨n + draws d, Nat.add_le_add_right hn _, ?_⟩
      rw [hrest, hstep, drawMore_drawMore, Nat.add_comm]

theorem isRefusal_of_run {ds : List (Nat × Document)} {e : Error}
    (h : (run isPartial r ds).2 = some e) : isRefusal e = true := by
  induction ds generalizing r with
  | nil => cases h
  | cons p ds ih =>
    obtain ⟨index, d⟩ := p
    rw [run] at h
    split at h
    · next t e' hfail =>
      rw [← Option.some.inj h]
      exact isRefusal_of_step r isPartial (congrArg Prod.snd hfail)
    · exact ih _ h

end Resolution

theorem isRefusal_of_mem_invalidIn {b : Batch} {p : Nat × Error} (hp : p ∈ invalidIn b) :
    isRefusal p.2 = true := by
  obtain ⟨⟨d, i⟩, -, hd⟩ := List.mem_filterMap.mp hp
  dsimp only at hd
  split at hd
  · next e hvalid =>
    rw [← Option.some.inj hd]
    exact isRefusal_of_validate hvalid
  · cases hd

/-- The valid documents of a batch are some of its documents. -/
theorem sublist_validIn (b : Batch) : ((validIn b).map Prod.snd).Sublist b.documents := by
  have hplaces : (validIn b).map Prod.snd = (b.documents.zipIdx.filter fun p => p.1.validate.toBool).map
      Prod.fst := by
    rw [validIn, List.map_filterMap, ← List.filterMap_eq_map, List.filterMap_filter]
    apply List.filterMap_congr
    intro p hp
    dsimp only
    split <;> rfl
  rw [hplaces]
  exact (List.filter_sublist.map Prod.fst).trans (by rw [List.zipIdx_map_fst])

theorem commitAll_eq_error {r : Resolution} {b : Batch} {e : Error}
    (h : (commitAll r b).result = .error e) (hpartial : ∀ failures, e ≠ .partialBatch failures) :
    isRefusal e = true ∧ (commitAll r b).batch = b ∧ (commitAll r b).segment = r.segment := by
  unfold commitAll at h ⊢
  dsimp only at h ⊢
  split at h
  · next hfull =>
    rw [if_pos hfull, ← Except.error.inj h]
    exact ⟨rfl, rfl, rfl⟩
  · dsimp only at h
    split at h
    · cases h
    · exact absurd (Except.error.inj h).symm (hpartial _)

theorem insertBatchWritable_eq_error {s : Mutable} {b : Batch} {e : Error}
    (h : (s.insertBatchWritable b).result = .error e)
    (hpartial : ∀ failures, e ≠ .partialBatch failures) :
    isRefusal e = true ∧ (s.insertBatchWritable b).batch = b ∧
      ∃ n ≤ b.documents.countP isAnonymous, (s.insertBatchWritable b).segment = s.drawMore n := by
  have hcount : (validIn b).countP (fun p => isAnonymous p.2) ≤ b.documents.countP isAnonymous := by
    have hsub := (sublist_validIn b).countP_le (p := isAnonymous)
    rwa [List.countP_map] at hsub
  unfold insertBatchWritable at h ⊢
  split at h
  · next i e' rest hwhole hinvalid =>
    have hmem : (i, e') ∈ invalidIn b := by rw [hinvalid]; exact List.mem_cons_self
    rw [← Except.error.inj h]
    exact ⟨isRefusal_of_mem_invalidIn hmem, rfl, 0, Nat.zero_le _, rfl⟩
  · obtain ⟨n, hn, hsegment⟩ :=
      Resolution.run_segment ⟨s, [], [], (invalidIn b).reverse⟩ b.isPartial (validIn b)
    split at h
    · next r e' hrun =>
      rw [hrun] at hsegment
      rw [← Except.error.inj h]
      exact ⟨Resolution.isRefusal_of_run _ _ (congrArg Prod.snd hrun), rfl, n,
        Nat.le_trans hn hcount, hsegment⟩
    · next r hrun =>
      rw [hrun] at hsegment
      obtain ⟨hrefused, hbatch, hsame⟩ := commitAll_eq_error h hpartial
      exact ⟨hrefused, hbatch, n, Nat.le_trans hn hcount, hsame.trans hsegment⟩

/-- A batch that is refused has drawn identifiers at most, and its documents are as they were. -/
theorem insertBatch_eq_error {s : Mutable} {b : Batch} {e : Error}
    (h : (s.insertBatch b).result = .error e) (hpartial : ∀ failures, e ≠ .partialBatch failures) :
    isRefusal e = true ∧ (s.insertBatch b).batch = b ∧
      ∃ n ≤ b.documents.countP isAnonymous, (s.insertBatch b).segment = s.drawMore n := by
  unfold insertBatch at h ⊢
  split at h
  · next e' hcheck =>
    rw [← Except.error.inj h]
    exact ⟨isRefusal_of_checkWritable hcheck, rfl, 0, Nat.zero_le _, rfl⟩
  · exact insertBatchWritable_eq_error h hpartial

/-- A write that is refused as a whole, be it a document or a batch of either kind, leaves the segment
and what the caller gave as they were. Identifiers may have been drawn for documents without one, and
this is all that is different: drawing more of them touches no document and no answer. -/
theorem refused_write_changes_nothing (s : Mutable) :
    (∀ d e, (s.insert d).result = .error e →
      isRefusal e = true ∧ (s.insert d).document = d ∧
        ∃ n ≤ draws d, (s.insert d).segment = s.drawMore n) ∧
    ∀ b e, (s.insertBatch b).result = .error e → (∀ failures, e ≠ .partialBatch failures) →
      isRefusal e = true ∧ (s.insertBatch b).batch = b ∧
        ∃ n ≤ b.documents.countP isAnonymous, (s.insertBatch b).segment = s.drawMore n :=
  ⟨fun _ _ h => insert_eq_error h, fun _ _ h hpartial => insertBatch_eq_error h hpartial⟩

/-- The second document of the batch has the identifier that was drawn for the first. -/
theorem refused_write_changes_nothing_drawn :
    ∃ s b, s = ((Session.new ⟨0, 5, .exact⟩ fun _ => [103]).run
        [.insert (Session.letter 97)]).segment ∧
      b = ⟨[{ Session.letter 0 with id := none }, Session.letter 103], false⟩ ∧
      (s.insert (Session.letter 97)).result = .error (duplicate [97]) ∧
      (s.insert (Session.letter 97)).segment = s ∧
      (s.insertBatch b).result = .error (duplicate [103]) ∧ (s.insertBatch b).batch = b ∧
      ∃ n ≤ 1, (s.insertBatch b).segment = s.drawMore n := by
  obtain ⟨s, hs⟩ : ∃ s, s = ((Session.new ⟨0, 5, .exact⟩ fun _ => [103]).run
      [.insert (Session.letter 97)]).segment := ⟨_, rfl⟩
  obtain ⟨b, hb⟩ : ∃ b : Batch,
      b = ⟨[{ Session.letter 0 with id := none }, Session.letter 103], false⟩ := ⟨_, rfl⟩
  have hdocument : (s.insert (Session.letter 97)).result = .error (duplicate [97]) := by
    rw [hs]
    rfl
  have hwhole : (s.insertBatch b).result = .error (duplicate [103]) := by
    rw [hs, hb]
    rfl
  obtain ⟨hinsert, hinsertBatch⟩ := refused_write_changes_nothing s
  obtain ⟨-, -, n, hn, hsegment⟩ := hinsert _ _ hdocument
  obtain rfl : n = 0 := Nat.le_zero.mp hn
  obtain ⟨-, hbatch, m, hm, hdrawn⟩ := hinsertBatch _ _ hwhole fun failures h => by cases h
  have hone : b.documents.countP isAnonymous = 1 := by
    rw [hb]
    rfl
  rw [hone] at hm
  exact ⟨s, b, hs, hb, hdocument, hsegment, hwhole, hbatch, m, hm, hdrawn⟩

end InvertedIndex.Segment.Mutable
