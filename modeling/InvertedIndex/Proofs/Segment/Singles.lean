import InvertedIndex.Proofs.Segment.Batches

namespace InvertedIndex.Segment.Mutable

/-- How the insertion of a document ends, and that of a batch of it alone that is not partial. -/
inductive EndsAlike (s : Mutable) (d : Document) : Insertion → BatchInsertion → Prop where
  | refused {t : Mutable} {e : Error} : EndsAlike s d ⟨t, d, .error e⟩ ⟨t, ⟨[d], false⟩, .error e⟩
  | passed {id : Bytes} (writable : s.checkWritable = .ok ()) (valid : d.validate = .ok ())
    (given : d.id = some id) (known : s.containsIdentifier id = .ok true) :
    EndsAlike s d ⟨s, d, .error (duplicate id)⟩ ⟨s, ⟨[d], false⟩, .ok ()⟩
  | full {t : Mutable} {reason reason' : String} (last : s.watermark = PostingsId.last) :
    EndsAlike s d ⟨t, d, .error (.outOfBounds reason)⟩
      ⟨t, ⟨[d], false⟩, .error (.outOfBounds reason')⟩
  | committed {t : Mutable} {d' : Document} (moved : t.watermark ≠ s.watermark) :
    EndsAlike s d ⟨t, d', .ok s.watermark⟩ ⟨t, ⟨[d'], false⟩, .ok ()⟩

variable {s : Mutable} {d : Document}

theorem room_eq_zero_iff : s.room = 0 ↔ s.watermark = PostingsId.last := by
  have hlt := s.watermark.toNat_lt_size
  have hlast : PostingsId.last.toNat + 1 = UInt32.size := rfl
  rw [room, ← UInt32.toNat_inj]
  omega

theorem insertBatch_one_failed {e : Error} (hw : s.checkWritable = .ok ())
    (hd : d.validate = .error e) : s.insertBatch ⟨[d], false⟩ = ⟨s, ⟨[d], false⟩, .error e⟩ := by
  have hinvalid : invalidIn ⟨[d], false⟩ = [(0, e)] := by
    simp [invalidIn, hd]
  rw [insertBatch, hw]
  simp only [insertBatchWritable, hinvalid]

theorem insertBatch_one_full (hw : s.checkWritable = .ok ()) (hd : d.validate = .ok ()) {id : Bytes}
    {isDrawn : Bool} (hid : (s.identify d).1 = .ok (id, isDrawn))
    (hnew : s.containsIdentifier id = .ok false) (hfull : s.room = 0) (isPartial : Bool) :
    ∃ reason, s.insertBatch ⟨[d], isPartial⟩ =
      ⟨s.drawMore (draws d), ⟨[d], isPartial⟩, .error (.outOfBounds reason)⟩ := by
  have hroom : (s.drawMore (draws d)).room < 1 := Nat.lt_one_iff.mpr hfull
  rw [insertBatch_one hw hd (step_one_new hid hnew isPartial), commitAll]
  simp only [List.reverse_singleton, List.length_singleton, if_pos hroom]
  exact ⟨_, rfl⟩

theorem insertWritable_fault {e : Error} (hfault : (s.identify d).1 = .error e) :
    s.insertWritable d = ⟨s.drawMore (draws d), d, .error e⟩ := by
  have hidentify : s.identify d = (.error e, s.drawMore (draws d)) :=
    Prod.ext hfault (identify_snd s d)
  rw [insertWritable, hidentify]

/-- What becomes of a document that has an identifier or gets one. -/
theorem insertWritable_eq {id : Bytes} {isDrawn : Bool}
    (hid : (s.identify d).1 = .ok (id, isDrawn)) :
    s.insertWritable d =
      match s.containsIdentifier id with
      | .error e => ⟨s.drawMore (draws d), d, .error e⟩
      | .ok true => ⟨s.drawMore (draws d), d, .error (duplicate id)⟩
      | .ok false =>
        if s.watermark = PostingsId.last then
          ⟨s.drawMore (draws d), d, .error (.outOfBounds "postings ID space exhausted")⟩
        else
          ⟨(s.drawMore (draws d)).commit { d with id := some id }, { d with id := some id },
            .ok s.watermark⟩ := by
  have hidentify : s.identify d = (.ok (id, isDrawn), s.drawMore (draws d)) :=
    Prod.ext hid (identify_snd s d)
  rw [insertWritable, hidentify]
  rfl

theorem id_of_identify {id : Bytes} (hid : (s.identify d).1 = .ok (id, false)) : d.id = some id := by
  unfold identify at hid
  split at hid
  · next x hx =>
    cases hid
    exact hx
  · obtain ⟨x, -, heq⟩ := Results.map_eq_ok hid
    cases heq

/-- A document with an identifier that is not indexed is committed if there is a number left. -/
theorem endsAlike_of_new (hw : s.checkWritable = .ok ()) (hd : d.validate = .ok ()) {id : Bytes}
    {isDrawn : Bool} (hid : (s.identify d).1 = .ok (id, isDrawn))
    (hnew : s.containsIdentifier id = .ok false) :
    EndsAlike s d (s.insertWritable d) (s.insertBatch ⟨[d], false⟩) := by
  rw [insertWritable_eq hid, hnew]
  dsimp only
  by_cases hlast : s.watermark = PostingsId.last
  · obtain ⟨reason, hbatch⟩ :=
      insertBatch_one_full hw hd hid hnew (room_eq_zero_iff.mpr hlast) false
    rw [hbatch, if_pos hlast]
    exact .full hlast
  · have hroom : 0 < s.room := Nat.pos_of_ne_zero (mt room_eq_zero_iff.mp hlast)
    rw [insertBatch_one_new hw hd hid hnew hroom, if_neg hlast]
    apply EndsAlike.committed
    intro hsame
    have hfree : (s.drawMore (draws d)).watermark ≠ PostingsId.last := hlast
    have hnext := watermark_commit hfree { d with id := some id }
    rw [hsame] at hnext
    exact Nat.succ_ne_self _ hnext.symm

/-- A batch passes over a document that was given an indexed identifier. -/
theorem insert_given_known (hw : s.checkWritable = .ok ()) (hd : d.validate = .ok ()) {id : Bytes}
    (hgiven : d.id = some id) (hknown : s.containsIdentifier id = .ok true) :
    s.insert d = ⟨s, d, .error (duplicate id)⟩ ∧
      s.insertBatch ⟨[d], false⟩ = ⟨s, ⟨[d], false⟩, .ok ()⟩ := by
  have hid : (s.identify d).1 = .ok (id, false) := by rw [identify, hgiven]
  have hnone : draws d = 0 := by
    rw [draws, isAnonymous, Document.hasId, hgiven]
    rfl
  constructor
  · rw [insert, hw, hd]
    dsimp only
    rw [insertWritable_eq hid, hknown, hnone]
    rfl
  · have hstep : Resolution.step ⟨s, [], [], []⟩ false 0 d = (⟨s, [id], [], []⟩, none) := by
      rw [step_one hid, hknown, hnone]
      rfl
    rw [insertBatch_one hw hd hstep]
    rfl

/-- The two ways of writing look at a document in the same order. -/
theorem endsAlike_insert (s : Mutable) (d : Document) :
    EndsAlike s d (s.insert d) (s.insertBatch ⟨[d], false⟩) := by
  cases hw : s.checkWritable with
  | error e =>
    rw [insert, insertBatch, hw]
    exact .refused
  | ok u =>
  cases hd : d.validate with
  | error e =>
    rw [insertBatch_one_failed hw hd, insert, hw, hd]
    exact .refused
  | ok v =>
  have hinsert : s.insert d = s.insertWritable d := by rw [insert, hw, hd]
  cases hid : (s.identify d).1 with
  | error e =>
    rw [insertBatch_one_refused hw hd (step_one_fault hid false), hinsert, insertWritable_fault hid]
    exact .refused
  | ok identified =>
  obtain ⟨id, isDrawn⟩ := identified
  cases hknown : s.containsIdentifier id with
  | error e =>
    have hstep := step_one hid false
    rw [hknown] at hstep
    rw [insertBatch_one_refused hw hd hstep, hinsert, insertWritable_eq hid, hknown]
    exact .refused
  | ok isKnown =>
  cases isKnown with
  | false =>
    rw [hinsert]
    exact endsAlike_of_new hw hd hid hknown
  | true =>
  cases isDrawn with
  | true =>
    have hstep := step_one hid false
    rw [hknown] at hstep
    rw [insertBatch_one_refused hw hd hstep, hinsert, insertWritable_eq hid, hknown]
    exact .refused
  | false =>
    have hgiven := id_of_identify hid
    obtain ⟨hsingle, hbatch⟩ := insert_given_known hw hd hgiven hknown
    rw [hsingle, hbatch]
    exact .passed hw hd hgiven hknown

/-- The same error, or two wordings for that there is no number left. -/
def SameKind (e e' : Error) : Prop :=
  e = e' ∨ ∃ reason reason', e = .outOfBounds reason ∧ e' = .outOfBounds reason'

/-- To insert a document and to insert a batch of it alone leave the same segment, with as many identifiers
drawn, and the same document behind. The one gives a number where the other goes through and moves the
watermark, and they are refused for the same reason, but for a document with an identifier that was given
and is indexed already: this alone is refused on its own and passed over in a batch. -/
theorem insert_is_batch_of_one (s : Mutable) (d : Document) :
    (s.insertBatch ⟨[d], false⟩).segment = (s.insert d).segment ∧
    (s.insertBatch ⟨[d], false⟩).batch = ⟨[(s.insert d).document], false⟩ ∧
    (∀ id, (s.insert d).result = .ok id ↔ (s.insertBatch ⟨[d], false⟩).result = .ok () ∧
      (s.insertBatch ⟨[d], false⟩).segment.watermark ≠ s.watermark ∧ id = s.watermark) ∧
    (∀ e, (s.insertBatch ⟨[d], false⟩).result = .error e →
      ∃ e', (s.insert d).result = .error e' ∧ SameKind e e') ∧
    (∀ e', (s.insert d).result = .error e' →
      (∃ e, (s.insertBatch ⟨[d], false⟩).result = .error e ∧ SameKind e e') ∨
      ∃ id, d.id = some id ∧ s.containsIdentifier id = .ok true ∧ e' = duplicate id ∧
        (s.insertBatch ⟨[d], false⟩).result = .ok () ∧ (s.insertBatch ⟨[d], false⟩).segment = s) ∧
    ∀ id, s.checkWritable = .ok () → d.validate = .ok () → d.id = some id →
      s.containsIdentifier id = .ok true → (s.insert d).result = .error (duplicate id) ∧
        (s.insertBatch ⟨[d], false⟩).result = .ok () := by
  have hgiven : ∀ id, s.checkWritable = .ok () → d.validate = .ok () → d.id = some id →
      s.containsIdentifier id = .ok true → (s.insert d).result = .error (duplicate id) ∧
        (s.insertBatch ⟨[d], false⟩).result = .ok () := by
    intro id hw hd hid hknown
    obtain ⟨hsingle, hbatch⟩ := insert_given_known hw hd hid hknown
    rw [hsingle, hbatch]
    exact ⟨rfl, rfl⟩
  have hends := endsAlike_insert s d
  generalize s.insert d = single at hends hgiven ⊢
  generalize s.insertBatch ⟨[d], false⟩ = batch at hends hgiven ⊢
  refine ⟨?_, ?_, ?_, ?_, ?_, hgiven⟩
  · cases hends <;> rfl
  · cases hends <;> rfl
  · intro id
    cases hends with
    | committed moved => simp [moved, eq_comm]
    | _ => simp
  · intro e he
    cases hends with
    | refused =>
      cases he
      exact ⟨_, rfl, .inl rfl⟩
    | full last =>
      cases he
      exact ⟨_, rfl, .inr ⟨_, _, rfl, rfl⟩⟩
    | _ => cases he
  · intro e' he'
    cases hends with
    | refused =>
      cases he'
      exact .inl ⟨_, rfl, .inl rfl⟩
    | passed hw hd hid hknown =>
      cases he'
      exact .inr ⟨_, hid, hknown, rfl, rfl, rfl⟩
    | full last =>
      cases he'
      exact .inl ⟨_, rfl, .inr ⟨_, _, rfl, rfl⟩⟩
    | committed moved => cases he'

/-- The one document of a segment, inserted once more, and then a new one. -/
theorem insert_is_batch_of_one_letters :
    ∃ s : Mutable, s = ((Session.new ⟨0, 5, .exact⟩ fun _ => []).run
        [.insert (Session.letter 97)]).segment ∧
      (s.insert (Session.letter 97)).result = .error (duplicate [97]) ∧
      (s.insertBatch ⟨[Session.letter 97], false⟩).result = .ok () ∧
      (s.insertBatch ⟨[Session.letter 98], false⟩).result = .ok () ∧
      (s.insert (Session.letter 98)).result = .ok 6 := by
  obtain ⟨s, hs⟩ : ∃ s, s = ((Session.new ⟨0, 5, .exact⟩ fun _ => []).run
      [.insert (Session.letter 97)]).segment := ⟨_, rfl⟩
  obtain ⟨-, -, -, -, -, hgiven⟩ := insert_is_batch_of_one s (Session.letter 97)
  obtain ⟨-, -, hnumber, -⟩ := insert_is_batch_of_one s (Session.letter 98)
  obtain ⟨hsingle, hbatch⟩ := hgiven [97] (by rw [hs]; rfl) rfl rfl (by rw [hs]; rfl)
  have hdone : (s.insertBatch ⟨[Session.letter 98], false⟩).result = .ok () := by
    rw [hs]
    rfl
  have hmoved : (s.insertBatch ⟨[Session.letter 98], false⟩).segment.watermark ≠ s.watermark := by
    rw [hs]
    decide
  have hwatermark : 6 = s.watermark := by
    rw [hs]
    rfl
  exact ⟨s, hs, hsingle, hbatch, hdone, (hnumber 6).mpr ⟨hdone, hmoved, hwatermark⟩⟩

end InvertedIndex.Segment.Mutable
