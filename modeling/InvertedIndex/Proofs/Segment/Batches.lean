import InvertedIndex.Proofs.Dictionary.Strategies
import InvertedIndex.Proofs.Segment.Refusal

namespace InvertedIndex.Segment.Mutable

/-- Takes in documents one by one, each as a partial batch of its own. What remains is the segment
and the documents, of which those that were committed have their identifiers. -/
def insertEach (s : Mutable) : List Document → Mutable × List Document
  | [] => (s, [])
  | d :: ds =>
    let one := s.insertBatch ⟨[d], true⟩
    let rest := insertEach one.segment ds
    (rest.1, one.batch.documents ++ rest.2)

theorem drawMore_foldl_commit (s : Mutable) (n : Nat) (added : List Document) :
    added.foldl commit (s.drawMore n) = (added.foldl commit s).drawMore n := by
  induction added generalizing s with
  | nil => rfl
  | cons d added ih => exact ih (s.commit d)

theorem checkWritable_foldl_commit (s : Mutable) (added : List Document) :
    (added.foldl commit s).checkWritable = s.checkWritable := by
  induction added generalizing s with
  | nil => rfl
  | cons d added ih => exact ih (s.commit d)

/-- What is committed has no part in what is drawn. -/
theorem identify_foldl_commit (s : Mutable) (added : List Document) (d : Document) :
    ((added.foldl commit s).identify d).1 = (s.identify d).1 := by
  induction added generalizing s with
  | nil => rfl
  | cons e added ih =>
    have hcommit : ((s.commit e).identify d).1 = (s.identify d).1 := by
      unfold identify
      cases d.id <;> rfl
    rw [List.foldl_cons, ih, hcommit]

theorem room_foldl_commit {s : Mutable} {added : List Document} (h : added.length ≤ s.room) :
    (added.foldl commit s).room = s.room - added.length := by
  induction added generalizing s with
  | nil => rfl
  | cons d added ih =>
    rw [List.length_cons] at h ⊢
    obtain ⟨-, hleft⟩ := room_commit (Nat.zero_lt_of_lt h) d
    rw [List.foldl_cons, ih (by omega)]
    omega

/-- Whether a value can be looked up does not depend on what there is. -/
theorem exists_containsIdentifier_eq_ok {s s' : Mutable}
    (hs : s'.dictionary.strategy = s.dictionary.strategy) {id : Bytes} {c : Bool}
    (hc : s.containsIdentifier id = .ok c) : ∃ c', s'.containsIdentifier id = .ok c' := by
  cases hresult : s'.containsIdentifier id with
  | ok c' => exact ⟨c', rfl⟩
  | error e =>
    obtain ⟨hstrategy, hvalid, hliteral⟩ := Dictionary.containsTerm_eq_error hresult
    obtain ⟨p, hp⟩ := Dictionary.literal_eq_ok_of_containsTerm (hs.symm.trans hstrategy) hvalid hc
    rw [hliteral] at hp
    cases hp

section

variable {t : Mutable} {d : Document}

theorem insertBatch_one_invalid (hw : t.checkWritable = .ok ()) {e : Error}
    (hd : d.validate = .error e) :
    (t.insertBatch ⟨[d], true⟩).segment = t ∧
      (t.insertBatch ⟨[d], true⟩).batch.documents = [d] := by
  have hvalid : validIn ⟨[d], true⟩ = [] := by
    simp [validIn, hd, Except.toBool]
  rw [insertBatch, hw]
  simp only [insertBatchWritable, hvalid, Resolution.run, commitAll]
  exact ⟨rfl, rfl⟩

theorem insertBatch_one_eq (hw : t.checkWritable = .ok ()) (hd : d.validate = .ok ())
    (isPartial : Bool) :
    t.insertBatch ⟨[d], isPartial⟩ =
      match Resolution.run isPartial ⟨t, [], [], []⟩ [(0, d)] with
      | (r, some e) => ⟨r.segment, ⟨[d], isPartial⟩, .error e⟩
      | (r, none) => commitAll r ⟨[d], isPartial⟩ := by
  have hvalid : validIn ⟨[d], isPartial⟩ = [(0, d)] := by
    simp [validIn, hd, Except.toBool]
  have hinvalid : invalidIn ⟨[d], isPartial⟩ = [] := by
    simp [invalidIn, hd]
  rw [insertBatch, hw]
  unfold insertBatchWritable
  rw [hvalid, hinvalid]
  cases isPartial <;> rfl

theorem insertBatch_one (hw : t.checkWritable = .ok ()) (hd : d.validate = .ok ()) {isPartial : Bool}
    {r : Resolution} (hr : Resolution.step ⟨t, [], [], []⟩ isPartial 0 d = (r, none)) :
    t.insertBatch ⟨[d], isPartial⟩ = commitAll r ⟨[d], isPartial⟩ := by
  simp only [insertBatch_one_eq hw hd, Resolution.run, hr]

theorem insertBatch_one_refused (hw : t.checkWritable = .ok ()) (hd : d.validate = .ok ())
    {isPartial : Bool} {r : Resolution} {e : Error}
    (hr : Resolution.step ⟨t, [], [], []⟩ isPartial 0 d = (r, some e)) :
    t.insertBatch ⟨[d], isPartial⟩ = ⟨r.segment, ⟨[d], isPartial⟩, .error e⟩ := by
  simp only [insertBatch_one_eq hw hd, Resolution.run, hr]

theorem step_one_fault {e : Error} (hfault : (t.identify d).1 = .error e) (isPartial : Bool) :
    Resolution.step ⟨t, [], [], []⟩ isPartial 0 d =
      Resolution.refuse ⟨t.drawMore (draws d), [], [], []⟩ isPartial 0 e := by
  have hidentify : t.identify d = (.error e, t.drawMore (draws d)) :=
    Prod.ext hfault (identify_snd t d)
  rw [Resolution.step, hidentify]

/-- How a document is resolved before which no identifier was met. -/
theorem step_one {id : Bytes} {isDrawn : Bool} (hid : (t.identify d).1 = .ok (id, isDrawn))
    (isPartial : Bool) :
    Resolution.step ⟨t, [], [], []⟩ isPartial 0 d =
      match t.containsIdentifier id with
      | .error e => (⟨t.drawMore (draws d), [id], [], []⟩, some e)
      | .ok true =>
        if isDrawn then
          Resolution.refuse ⟨t.drawMore (draws d), [id], [], []⟩ isPartial 0 (duplicate id)
        else (⟨t.drawMore (draws d), [id], [], []⟩, none)
      | .ok false => (⟨t.drawMore (draws d), [id], [(0, { d with id := some id })], []⟩, none) := by
  have hidentify : t.identify d = (.ok (id, isDrawn), t.drawMore (draws d)) :=
    Prod.ext hid (identify_snd t d)
  rw [Resolution.step, hidentify]
  rfl

/-- A document whose identifier is refused or indexed already stays as it is. -/
theorem insertBatch_one_kept (hw : t.checkWritable = .ok ()) (hd : d.validate = .ok ())
    (hkept : (∃ e, (t.identify d).1 = .error e) ∨
      ∃ id isDrawn, (t.identify d).1 = .ok (id, isDrawn) ∧ t.containsIdentifier id = .ok true) :
    (t.insertBatch ⟨[d], true⟩).segment = t.drawMore (draws d) ∧
      (t.insertBatch ⟨[d], true⟩).batch.documents = [d] := by
  obtain ⟨seen, failures, hstep⟩ : ∃ seen failures,
      Resolution.step ⟨t, [], [], []⟩ true 0 d =
        (⟨t.drawMore (draws d), seen, [], failures⟩, none) := by
    rcases hkept with ⟨e, he⟩ | ⟨id, isDrawn, hid, hknown⟩
    · exact ⟨[], [(0, e)], step_one_fault he true⟩
    · rw [step_one hid, hknown]
      cases isDrawn with
      | false => exact ⟨[id], [], rfl⟩
      | true => exact ⟨[id], [(0, duplicate id)], rfl⟩
  rw [insertBatch_one hw hd hstep]
  exact ⟨rfl, rfl⟩

theorem step_one_new {id : Bytes} {isDrawn : Bool} (hid : (t.identify d).1 = .ok (id, isDrawn))
    (hnew : t.containsIdentifier id = .ok false) (isPartial : Bool) :
    Resolution.step ⟨t, [], [], []⟩ isPartial 0 d =
      (⟨t.drawMore (draws d), [id], [(0, { d with id := some id })], []⟩, none) := by
  rw [step_one hid, hnew]

theorem insertBatch_one_new (hw : t.checkWritable = .ok ()) (hd : d.validate = .ok ())
    {id : Bytes} {isDrawn : Bool} (hid : (t.identify d).1 = .ok (id, isDrawn))
    (hnew : t.containsIdentifier id = .ok false) (hroom : 0 < t.room) (isPartial : Bool) :
    t.insertBatch ⟨[d], isPartial⟩ = ⟨(t.drawMore (draws d)).commit { d with id := some id },
      ⟨[{ d with id := some id }], isPartial⟩, .ok ()⟩ := by
  have hfits : ¬ (t.drawMore (draws d)).room < 1 := Nat.not_lt.mpr hroom
  rw [insertBatch_one hw hd (step_one_new hid hnew isPartial), commitAll]
  simp only [List.reverse_singleton, List.length_singleton, if_neg hfits]
  rfl

end

namespace Resolution

variable {s : Mutable} {docs : List Document} {r r' : Resolution}

theorem refuse_accepted (r : Resolution) (isPartial : Bool) (index : Nat) (e : Error) :
    (r.refuse isPartial index e).1.accepted = r.accepted := by
  unfold refuse
  split <;> rfl

theorem refuse_eq {isPartial : Bool} {index : Nat} {e : Error}
    (h : r.refuse isPartial index e = (r', none)) :
    r' = { r with failures := (index, e) :: r.failures } := by
  unfold refuse at h
  split at h
  · exact (Prod.mk.inj h).1.symm
  · cases (Prod.mk.inj h).2

/-- What resolving a document that does not fail the batch comes to. -/
inductive Steps (r : Resolution) (index : Nat) (d : Document) : Resolution → Prop where
  | unidentified {e : Error} (fault : (r.segment.identify d).1 = .error e) :
    Steps r index d ⟨r.segment.drawMore (draws d), r.seen, r.accepted, (index, e) :: r.failures⟩
  | refused {id : Bytes} {isDrawn : Bool} {e : Error}
    (identified : (r.segment.identify d).1 = .ok (id, isDrawn))
    (known : id ∈ r.seen ∨ id ∉ r.seen ∧ isDrawn = true ∧ r.segment.containsIdentifier id = .ok true) :
    Steps r index d
      ⟨r.segment.drawMore (draws d), id :: r.seen, r.accepted, (index, e) :: r.failures⟩
  | passed {id : Bytes} (identified : (r.segment.identify d).1 = .ok (id, false))
    (unmet : id ∉ r.seen) (known : r.segment.containsIdentifier id = .ok true) :
    Steps r index d ⟨r.segment.drawMore (draws d), id :: r.seen, r.accepted, r.failures⟩
  | accepted {id : Bytes} {isDrawn : Bool}
    (identified : (r.segment.identify d).1 = .ok (id, isDrawn))
    (unmet : id ∉ r.seen) (unknown : r.segment.containsIdentifier id = .ok false) :
    Steps r index d ⟨r.segment.drawMore (draws d), id :: r.seen,
      (index, { d with id := some id }) :: r.accepted, r.failures⟩

/-- A document is passed over if it was given an identifier that is indexed already. -/
theorem step_given_known {d : Document} {id : Bytes} (hgiven : d.id = some id) (hunmet : id ∉ r.seen)
    (hknown : r.segment.containsIdentifier id = .ok true) (isPartial : Bool) (index : Nat) :
    r.step isPartial index d = ({ r with seen := id :: r.seen }, none) := by
  have hidentify : r.segment.identify d = (.ok (id, false), r.segment) := by
    rw [identify, hgiven]
  have hfirst : ¬ r.seen.contains id = true := mt List.contains_iff_mem.mp hunmet
  rw [step, hidentify]
  dsimp only
  rw [if_neg hfirst, hknown]
  rfl

theorem steps_of_step {isPartial : Bool} {index : Nat} {d : Document}
    (h : r.step isPartial index d = (r', none)) : r.Steps index d r' := by
  have hsegment := identify_snd r.segment d
  unfold step at h
  split at h
  · next e t hidentify =>
    have hfault : (r.segment.identify d).1 = .error e := by rw [hidentify]
    rw [hidentify] at hsegment
    obtain rfl : t = r.segment.drawMore (draws d) := hsegment
    rw [refuse_eq h]
    exact .unidentified hfault
  · next id isDrawn t hidentify =>
    have hid : (r.segment.identify d).1 = .ok (id, isDrawn) := by rw [hidentify]
    rw [hidentify] at hsegment
    obtain rfl : t = r.segment.drawMore (draws d) := hsegment
    dsimp only at h
    by_cases hmet : id ∈ r.seen
    · rw [if_pos (List.contains_iff_mem.mpr hmet)] at h
      rw [refuse_eq h]
      exact .refused hid (.inl hmet)
    · rw [if_neg fun hmem => hmet (List.contains_iff_mem.mp hmem)] at h
      split at h
      · cases (Prod.mk.inj h).2
      · next hknown =>
        split at h
        · next hdrawn =>
          rw [refuse_eq h]
          exact .refused hid (.inr ⟨hmet, hdrawn, hknown⟩)
        · next hgiven =>
          rw [← (Prod.mk.inj h).1]
          rw [Bool.not_eq_true] at hgiven
          rw [hgiven] at hid
          exact .passed hid hmet hknown
      · next hunknown =>
        rw [← (Prod.mk.inj h).1]
        exact .accepted hid hmet hunknown

theorem step_cases {isPartial : Bool} {index : Nat} {d : Document}
    (h : r.step isPartial index d = (r', none)) :
    ((∃ e, (r.segment.identify d).1 = .error e) ∧ r'.seen = r.seen ∧ r'.accepted = r.accepted) ∨
      ∃ id isDrawn, (r.segment.identify d).1 = .ok (id, isDrawn) ∧ r'.seen = id :: r.seen ∧
        ((id ∈ r.seen ∨ r.segment.containsIdentifier id = .ok true) ∧ r'.accepted = r.accepted ∨
          id ∉ r.seen ∧ r.segment.containsIdentifier id = .ok false ∧
            r'.accepted = (index, { d with id := some id }) :: r.accepted) := by
  cases steps_of_step h with
  | unidentified fault => exact .inl ⟨⟨_, fault⟩, rfl, rfl⟩
  | refused identified known =>
    exact .inr ⟨_, _, identified, rfl, .inl ⟨known.imp_right fun h => h.2.2, rfl⟩⟩
  | passed identified _ known => exact .inr ⟨_, _, identified, rfl, .inl ⟨.inr known, rfl⟩⟩
  | accepted identified unmet unknown =>
    exact .inr ⟨_, _, identified, rfl, .inr ⟨unmet, unknown, rfl⟩⟩

/-- The documents to commit, in the order of the batch. -/
def added (r : Resolution) : List Document := r.accepted.reverse.map Prod.snd

/-- The segment if all that was accepted so far were committed. -/
def committed (r : Resolution) : Mutable := r.added.foldl commit r.segment

/-- The documents of a batch with the identifiers of those that were accepted so far. -/
def written (r : Resolution) (ds : List Document) : List Document :=
  r.accepted.reverse.foldl (fun ds (i, d) => ds.set i d) ds

/-- The resolution stands where the documents would stand one by one: the identifiers that were met
are those that are found then. -/
structure Follows (s : Mutable) (docs : List Document) (r : Resolution) : Prop where
  sound : r.Sound s
  met : ∀ id ∈ r.seen, some id ∈ (docs ++ r.added).map Document.id
  answered : ∀ id ∈ r.seen, ∃ c, r.segment.containsIdentifier id = .ok c

theorem added_of_accepted {index : Nat} {d : Document}
    (h : r'.accepted = (index, d) :: r.accepted) : r'.added = r.added ++ [d] := by
  simp [added, h]

theorem length_added (r : Resolution) : r.added.length = r.accepted.length := by
  simp [added]

theorem mem_added {d : Document} : d ∈ r.added ↔ ∃ index, (index, d) ∈ r.accepted := by
  simp [added]

theorem checkWritable_committed (hw : r.segment.checkWritable = .ok ()) :
    r.committed.checkWritable = .ok () := by
  rw [committed, checkWritable_foldl_commit, hw]

theorem Follows.represents (h : r.Follows s docs) (hdocs : s.Represents docs)
    (hroom : r.accepted.length ≤ r.segment.room) : r.committed.Represents (docs ++ r.added) :=
  represents_commitAll h.sound hdocs hroom

/-- What can be looked up before the commits is found after them if a document has it then. -/
theorem Follows.containsIdentifier_committed (h : r.Follows s docs) (hdocs : s.Represents docs)
    (hroom : r.accepted.length ≤ r.segment.room) {id : Bytes} {c : Bool}
    (hc : r.segment.containsIdentifier id = .ok c) :
    r.committed.containsIdentifier id = .ok (some id ∈ (docs ++ r.added).map Document.id) := by
  have hstrategy : r.committed.dictionary.strategy = r.segment.dictionary.strategy :=
    strategy_foldl_commit _ _
  obtain ⟨c', hc'⟩ := exists_containsIdentifier_eq_ok hstrategy hc
  have hfound := (h.represents hdocs hroom).containsIdentifier_iff hc'
  rw [hc', Bool.eq_iff_iff.mpr (hfound.trans decide_eq_true_iff.symm)]

/-- An identifier that was neither met nor indexed belongs to no document so far. -/
theorem Follows.not_mem_of_new (h : r.Follows s docs) (hdocs : s.Represents docs) {id : Bytes}
    (hseen : id ∉ r.seen) (hnew : r.segment.containsIdentifier id = .ok false) :
    some id ∉ (docs ++ r.added).map Document.id := by
  rw [List.map_append, List.mem_append, not_or]
  constructor
  · exact (hdocs.of_same h.sound.same).not_mem_of_containsIdentifier hnew
  · intro hmem
    obtain ⟨d, hd, hid⟩ := List.mem_map.mp hmem
    obtain ⟨index, hp⟩ := mem_added.mp hd
    obtain ⟨x, hx, heq⟩ := h.sound.seen _ hp
    exact hseen (Option.some.inj (hid.symm.trans heq) ▸ hx)

/-- An identifier that was met or is indexed belongs to a document. -/
theorem Follows.mem_of_known (h : r.Follows s docs) (hdocs : s.Represents docs) {id : Bytes}
    (hknown : id ∈ r.seen ∨ r.segment.containsIdentifier id = .ok true) :
    some id ∈ (docs ++ r.added).map Document.id := by
  cases hknown with
  | inl hseen => exact h.met id hseen
  | inr hindexed =>
    have hmem := ((hdocs.of_same h.sound.same).containsIdentifier_iff hindexed).mp rfl
    rw [List.map_append]
    exact List.mem_append_left _ hmem

/-- A document of the batch alone, after what was accepted before it: its effect on the segment and
on itself is the one that it has in the batch. -/
structure Lockstep (r r' : Resolution) (index : Nat) (d : Document) : Prop where
  segment : (r.committed.insertBatch ⟨[d], true⟩).segment = r'.committed
  document : ∃ d', (r.committed.insertBatch ⟨[d], true⟩).batch.documents = [d'] ∧
    ∀ all done rest, done.length = index → r.written all = done ++ d :: rest →
      r'.written all = done ++ d' :: rest

/-- A document that is not accepted changes nothing but the number of identifiers that were drawn, on its
own as in the batch. -/
theorem lockstep_of_kept {index : Nat} {d : Document}
    (hsegment : r'.segment = r.segment.drawMore (draws d)) (haccepted : r'.accepted = r.accepted)
    (hone : (r.committed.insertBatch ⟨[d], true⟩).segment = r.committed.drawMore (draws d) ∧
      (r.committed.insertBatch ⟨[d], true⟩).batch.documents = [d]) : Lockstep r r' index d where
  segment := by
    rw [hone.1, committed, committed, added, added, haccepted, hsegment, drawMore_foldl_commit]
  document := by
    refine ⟨d, hone.2, ?_⟩
    intro all done rest hlength hwritten
    rw [written, haccepted]
    exact hwritten

/-- An accepted document is committed last, on its own as in the batch. -/
theorem lockstep_of_new {index : Nat} {d d' : Document}
    (hsegment : r'.segment = r.segment.drawMore (draws d))
    (haccepted : r'.accepted = (index, d') :: r.accepted)
    (hone : (r.committed.insertBatch ⟨[d], true⟩).segment =
        (r.committed.drawMore (draws d)).commit d' ∧
      (r.committed.insertBatch ⟨[d], true⟩).batch.documents = [d']) : Lockstep r r' index d where
  segment := by
    rw [hone.1, committed, committed, added_of_accepted haccepted, hsegment, List.foldl_append,
      drawMore_foldl_commit]
    rfl
  document := by
    refine ⟨d', hone.2, ?_⟩
    intro all done rest hlength hwritten
    have hset : (r.written all).set index d' = done ++ d' :: rest := by
      rw [hwritten, ← hlength, List.set_append_right _ _ (Nat.le_refl _), Nat.sub_self]
      rfl
    rw [written, haccepted, List.reverse_cons, List.foldl_append]
    exact hset

/-- One document of a batch is resolved as it would be on its own. -/
theorem Follows.step (h : r.Follows s docs) (hdocs : s.Represents docs)
    (hw : r.segment.checkWritable = .ok ()) {isPartial : Bool} {index : Nat} {d : Document}
    (hd : d.validate = .ok ()) (hstep : r.step isPartial index d = (r', none))
    (hroom : r'.accepted.length ≤ r.segment.room) : r'.Follows s docs ∧ Lockstep r r' index d := by
  have hsound := sound_step isPartial h.sound index hd
  have hsegment := step_segment r isPartial index d
  rw [hstep] at hsound hsegment
  replace hsegment : r'.segment = r.segment.drawMore (draws d) := hsegment
  have hlookup : ∀ id, r'.segment.containsIdentifier id = r.segment.containsIdentifier id := by
    intro id
    rw [hsegment]
    rfl
  have hwritable := checkWritable_committed hw
  have hidentify : (r.committed.identify d).1 = (r.segment.identify d).1 :=
    identify_foldl_commit _ _ _
  rcases step_cases hstep with ⟨herror, hseen, haccepted⟩ | ⟨id, isDrawn, hid, hseen, hcase⟩
  · refine ⟨⟨hsound, ?_, ?_⟩, lockstep_of_kept hsegment haccepted ?_⟩
    · rw [added, haccepted, hseen]
      exact h.met
    · rw [hseen]
      simpa only [hlookup] using h.answered
    · rw [← hidentify] at herror
      exact insertBatch_one_kept hwritable hd (.inl herror)
  · rcases hcase with ⟨hknown, haccepted⟩ | ⟨hnot, hnew, haccepted⟩
    · have hmem := h.mem_of_known hdocs hknown
      obtain ⟨c, hc⟩ : ∃ c, r.segment.containsIdentifier id = .ok c := by
        cases hknown with
        | inl hmet => exact h.answered id hmet
        | inr hindexed => exact ⟨true, hindexed⟩
      rw [haccepted] at hroom
      have hfound := h.containsIdentifier_committed hdocs hroom hc
      refine ⟨⟨hsound, ?_, ?_⟩, lockstep_of_kept hsegment haccepted ?_⟩
      · rw [added, haccepted, hseen, List.forall_mem_cons]
        exact ⟨hmem, h.met⟩
      · rw [hseen, List.forall_mem_cons]
        simp only [hlookup]
        exact ⟨⟨c, hc⟩, h.answered⟩
      · rw [← hidentify] at hid
        rw [decide_eq_true hmem] at hfound
        exact insertBatch_one_kept hwritable hd (.inr ⟨id, isDrawn, hid, hfound⟩)
    · have hfresh := h.not_mem_of_new hdocs hnot hnew
      rw [haccepted, List.length_cons] at hroom
      have hfound := h.containsIdentifier_committed hdocs (Nat.le_of_lt hroom) hnew
      have hfits : 0 < r.committed.room := by
        have hlength := length_added r
        rw [committed, room_foldl_commit (by omega)]
        omega
      refine ⟨⟨hsound, ?_, ?_⟩, lockstep_of_new hsegment haccepted ?_⟩
      · rw [added_of_accepted haccepted, hseen, ← List.append_assoc, List.map_append, List.forall_mem_cons]
        exact ⟨List.mem_append_right _ (by simp), fun x hx => List.mem_append_left _ (h.met x hx)⟩
      · rw [hseen, List.forall_mem_cons]
        simp only [hlookup]
        exact ⟨⟨false, hnew⟩, h.answered⟩
      · rw [← hidentify] at hid
        rw [decide_eq_false hfresh] at hfound
        rw [insertBatch_one_new hwritable hd hid hfound hfits true]
        exact ⟨rfl, rfl⟩

theorem length_accepted_step (isPartial : Bool) (r : Resolution) (index : Nat) (d : Document) :
    r.accepted.length ≤ (r.step isPartial index d).1.accepted.length := by
  unfold step
  split
  · rw [refuse_accepted]
  · dsimp only
    split
    · rw [refuse_accepted]
    · split
      · exact Nat.le_refl _
      · split
        · rw [refuse_accepted]
        · exact Nat.le_refl _
      · exact Nat.le_succ _

/-- What was accepted stays so. -/
theorem length_accepted_run (isPartial : Bool) (r : Resolution) (ds : List (Nat × Document)) :
    r.accepted.length ≤ (run isPartial r ds).1.accepted.length := by
  induction ds generalizing r with
  | nil => exact Nat.le_refl _
  | cons p ds ih =>
    obtain ⟨index, d⟩ := p
    have hstep := length_accepted_step isPartial r index d
    rw [run]
    split
    · next r₁ e hfail =>
      rw [hfail] at hstep
      exact hstep
    · next r₁ hgoes =>
      rw [hgoes] at hstep
      exact Nat.le_trans hstep (ih r₁)

/-- The valid documents from some place of a batch on. -/
def validFrom (k : Nat) (ds : List Document) : List (Nat × Document) :=
  (ds.zipIdx k).filterMap fun (d, i) => if d.validate.toBool then some (i, d) else none

theorem validFrom_cons (k : Nat) (d : Document) (ds : List Document) :
    validFrom k (d :: ds) =
      if d.validate.toBool then (k, d) :: validFrom (k + 1) ds else validFrom (k + 1) ds := by
  rw [validFrom, List.zipIdx_cons, List.filterMap_cons]
  split <;> simp_all [validFrom]

/-- What a resolution makes of the rest of a batch is what comes of its documents one by one. -/
theorem Follows.run (h : r.Follows s docs) (hdocs : s.Represents docs)
    (hw : r.segment.checkWritable = .ok ()) {isPartial : Bool} {k : Nat} {ds : List Document}
    (hrun : Resolution.run isPartial r (validFrom k ds) = (r', none))
    (hroom : r'.accepted.length ≤ r.segment.room) (all done : List Document)
    (hdone : done.length = k) (hwritten : r.written all = done ++ ds) :
    (r.committed.insertEach ds).1 = r'.committed ∧
      r'.written all = done ++ (r.committed.insertEach ds).2 := by
  induction ds generalizing r k done with
  | nil =>
    cases hrun
    exact ⟨rfl, hwritten⟩
  | cons d ds ih =>
    rw [validFrom_cons] at hrun
    rw [insertEach]
    cases hvalid : d.validate with
    | error e =>
      obtain ⟨hsegment, hdocuments⟩ := insertBatch_one_invalid (checkWritable_committed hw) hvalid
      rw [hvalid] at hrun
      have hnext : r.written all = (done ++ [d]) ++ ds := by
        rw [hwritten, List.append_assoc]
        rfl
      rw [hsegment, hdocuments]
      obtain ⟨hfirst, hsecond⟩ := ih h hw hrun hroom (done ++ [d]) (by simp [hdone]) hnext
      rw [List.append_assoc] at hsecond
      exact ⟨hfirst, hsecond⟩
    | ok u =>
      rw [hvalid] at hrun
      simp only [Except.toBool, if_true, Resolution.run] at hrun
      split at hrun
      · cases (Prod.mk.inj hrun).2
      · next r₁ hstep =>
        have hsegment := step_segment r isPartial k d
        rw [hstep] at hsegment
        replace hsegment : r₁.segment = r.segment.drawMore (draws d) := hsegment
        have hw₁ : r₁.segment.checkWritable = .ok () := by
          rw [hsegment]
          exact hw
        have hroom₁ : r'.accepted.length ≤ r₁.segment.room := by
          rw [hsegment]
          exact hroom
        have hlonger := length_accepted_run isPartial r₁ (validFrom (k + 1) ds)
        rw [hrun] at hlonger
        obtain ⟨hfollows, hlockstep⟩ := h.step hdocs hw hvalid hstep (Nat.le_trans hlonger hroom)
        obtain ⟨d', hdocument, hwrite⟩ := hlockstep.document
        have hnext : r₁.written all = (done ++ [d']) ++ ds := by
          rw [hwrite all done ds hdone hwritten, List.append_assoc]
          rfl
        rw [hlockstep.segment, hdocument]
        obtain ⟨hfirst, hsecond⟩ := ih hfollows hw₁ hrun hroom₁ (done ++ [d']) (by simp [hdone]) hnext
        rw [List.append_assoc] at hsecond
        exact ⟨hfirst, hsecond⟩

theorem follows_start (s : Mutable) (docs : List Document) (failures : List (Nat × Error)) :
    Follows s docs ⟨s, [], [], failures⟩ where
  sound := sound_start s failures
  met := by simp
  answered := by simp

end Resolution

/-- The write went through, for the valid documents at least. -/
def IsDone (result : Except Error Unit) : Prop :=
  result = .ok () ∨ ∃ failures, result = .error (.partialBatch failures)

theorem not_isDone_of_isRefusal {e : Error} (he : isRefusal e = true) : ¬ IsDone (.error e) := by
  rintro (h | ⟨failures, h⟩)
  · cases h
  · rw [Except.error.inj h] at he
    cases he

/-- What a batch that went through had come to before it was committed. -/
theorem insertBatch_of_isDone {s : Mutable} {b : Batch} (h : IsDone (s.insertBatch b).result) :
    s.checkWritable = .ok () ∧ ∃ r,
      Resolution.run b.isPartial ⟨s, [], [], (invalidIn b).reverse⟩
        (Resolution.validFrom 0 b.documents) = (r, none) ∧
      r.accepted.length ≤ r.segment.room ∧ (s.insertBatch b).segment = r.committed ∧
      (s.insertBatch b).batch.documents = r.written b.documents ∧
      (s.insertBatch b).result =
        if r.failures.isEmpty then .ok () else .error (.partialBatch r.failures.reverse) := by
  unfold insertBatch at h ⊢
  split at h
  · next e hcheck => exact absurd h (not_isDone_of_isRefusal (isRefusal_of_checkWritable hcheck))
  · next hcheck =>
    refine ⟨hcheck, ?_⟩
    unfold insertBatchWritable at h ⊢
    split at h
    · next i e rest hwhole hinvalid =>
      have hmem : (i, e) ∈ invalidIn b := by rw [hinvalid]; exact List.mem_cons_self
      exact absurd h (not_isDone_of_isRefusal (isRefusal_of_mem_invalidIn hmem))
    · split at h
      · next r e hrun =>
        have hrefused := Resolution.isRefusal_of_run _ _ (congrArg Prod.snd hrun)
        exact absurd h (not_isDone_of_isRefusal hrefused)
      · next r hrun =>
        refine ⟨r, hrun, ?_⟩
        unfold commitAll at h ⊢
        dsimp only at h ⊢
        split at h
        · exact absurd h (not_isDone_of_isRefusal rfl)
        · next hroom =>
          rw [if_neg hroom, Resolution.committed, Resolution.added, List.foldl_map]
          rw [List.length_reverse] at hroom
          exact ⟨Nat.le_of_not_lt hroom, rfl, rfl, rfl⟩

/-- A batch that goes through does what its documents do one after the other. -/
theorem Represents.insertEach_eq {s : Mutable} {docs : List Document} (h : s.Represents docs)
    {b : Batch} (hdone : IsDone (s.insertBatch b).result) :
    s.insertEach b.documents = ((s.insertBatch b).segment, (s.insertBatch b).batch.documents) := by
  obtain ⟨hw, r, hrun, hroom, hsegment, hdocuments, -⟩ := insertBatch_of_isDone hdone
  have hstart := Resolution.follows_start s docs (invalidIn b).reverse
  obtain ⟨n, -, hdrawn⟩ := Resolution.run_segment ⟨s, [], [], (invalidIn b).reverse⟩ b.isPartial
    (Resolution.validFrom 0 b.documents)
  rw [hrun] at hdrawn
  have hfits : r.accepted.length ≤ s.room := by
    rw [show r.segment = s.drawMore n from hdrawn] at hroom
    exact hroom
  obtain ⟨hfirst, hsecond⟩ := hstart.run h hw hrun hfits b.documents [] rfl rfl
  rw [hsegment, hdocuments, ← hfirst, hsecond]
  rfl

end InvertedIndex.Segment.Mutable

namespace InvertedIndex.Segment.Session

open Mutable (IsDone)

/-- A batch that goes through, whole or in part, leaves behind what its documents leave one by one:
the same segment, with as many identifiers drawn, and the same identifiers in the documents. This
holds after any operations and for any identifiers that are drawn. -/
theorem batch_is_documents_in_turn (options : Options) (generator : Nat → Bytes) (ops : List Op)
    (b : Batch) (hdone : IsDone (((new options generator).run ops).segment.insertBatch b).result) :
    ((new options generator).run ops).segment.insertEach b.documents =
      ((((new options generator).run ops).segment.insertBatch b).segment,
        (((new options generator).run ops).segment.insertBatch b).batch.documents) := by
  obtain ⟨docs, hdocs⟩ := represents_run_new options generator ops
  exact hdocs.insertEach_eq hdone

/-- A document without fields, one whose identifier is drawn, one that repeats it, and one that is
indexed already. -/
def mixed : List Document :=
  [⟨some [98], []⟩, { letter 0 with id := none }, letter 103, letter 97]

/-- Only the second document of the batch is taken in. -/
theorem batch_is_documents_in_turn_mixed :
    ∃ s, s = ((new ⟨0, 5, .exact⟩ fun _ => [103]).run [.insert (letter 97)]).segment ∧
      IsDone (s.insertBatch ⟨mixed, true⟩).result ∧
      (s.insertEach mixed).1.watermark = 7 ∧ (s.insertEach mixed).1.drawn = 1 ∧
      (s.insertEach mixed).2 =
        [⟨some [98], []⟩, { letter 0 with id := some [103] }, letter 103, letter 97] := by
  have hdone : IsDone (((new ⟨0, 5, .exact⟩ fun _ => [103]).run
      [.insert (letter 97)]).segment.insertBatch ⟨mixed, true⟩).result := .inr ⟨_, rfl⟩
  have heq := batch_is_documents_in_turn ⟨0, 5, .exact⟩ (fun _ => [103]) [.insert (letter 97)]
    ⟨mixed, true⟩ hdone
  refine ⟨_, rfl, hdone, ?_, ?_, ?_⟩
  · rw [heq]
    rfl
  · rw [heq]
    rfl
  · rw [heq]
    rfl

end InvertedIndex.Segment.Session
