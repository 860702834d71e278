import InvertedIndex.Proofs.Segment.Mutable

namespace InvertedIndex.Segment.Mutable

/-- Nothing is different about the documents or their terms. -/
structure SameDocuments (s s' : Mutable) : Prop where
  offset : s'.offset = s.offset
  watermark : s'.watermark = s.watermark
  slots : s'.slots = s.slots
  dictionary : s'.dictionary = s.dictionary

/-- The documents that were there are still, and others may have come after them. -/
structure Grows (s s' : Mutable) : Prop where
  offset : s'.offset = s.offset
  strategy : s'.dictionary.strategy = s.dictionary.strategy
  documents : ∀ docs, s.Represents docs → ∃ more, s'.Represents (docs ++ more)

variable {s s' t : Mutable} {docs : List Document}

theorem SameDocuments.refl (s : Mutable) : SameDocuments s s := ⟨rfl, rfl, rfl, rfl⟩

/-- A segment goes on holding its documents while nothing about them changes. -/
theorem Represents.of_same (h : s.Represents docs) (hs : SameDocuments s s') :
    s'.Represents docs where
  watermark := by rw [hs.watermark, hs.offset, h.watermark]
  slots i := by rw [hs.slots, h.slots]
  valid := h.valid
  identified := h.identified
  distinct := h.distinct
  dictionary := by
    rw [hs.dictionary, hs.offset]
    exact h.dictionary

theorem Grows.of_same (h : SameDocuments s s') : Grows s s' where
  offset := h.offset
  strategy := by rw [h.dictionary]
  documents docs hdocs := ⟨[], by simpa using hdocs.of_same h⟩

theorem Grows.refl (s : Mutable) : Grows s s := .of_same (.refl s)

theorem Grows.trans (h : Grows s s') (h' : Grows s' t) : Grows s t where
  offset := h'.offset.trans h.offset
  strategy := h'.strategy.trans h.strategy
  documents docs hdocs := by
    obtain ⟨more, hmore⟩ := h.documents docs hdocs
    obtain ⟨rest, hrest⟩ := h'.documents (docs ++ more) hmore
    rw [List.append_assoc] at hrest
    exact ⟨more ++ rest, hrest⟩

/-- A document that was committed stays where it is. -/
theorem Grows.document?_idAt (h : Grows s s') (hdocs : s.Represents docs) {i : Nat}
    (hi : i < docs.length) : s'.document? (idAt s.offset i) = docs[i]? := by
  obtain ⟨more, hmore⟩ := h.documents docs hdocs
  have hlong : i < (docs ++ more).length := by
    rw [List.length_append]
    omega
  have hread := hmore.document?_idAt hlong
  rwa [h.offset, List.getElem?_append_left hi] at hread

theorem strategy_foldl_insert (d : Dictionary) (fs : List Field) (id : PostingsId) :
    (fs.foldl (·.insert · id) d).strategy = d.strategy := by
  induction fs generalizing d with
  | nil => rfl
  | cons f fs ih =>
    have hinsert := Dictionary.strategy_insert d f id
    rw [List.foldl_cons, ih, hinsert]

@[simp] theorem strategy_commit (s : Mutable) (d : Document) :
    (s.commit d).dictionary.strategy = s.dictionary.strategy :=
  strategy_foldl_insert s.dictionary (termsOf d) s.watermark

@[simp] theorem offset_commit (s : Mutable) (d : Document) : (s.commit d).offset = s.offset := rfl

theorem watermark_commit (hroom : s.watermark ≠ PostingsId.last) (d : Document) :
    (s.commit d).watermark.toNat = s.watermark.toNat + 1 :=
  PostingsId.toNat_succ_of_ne_last hroom

/-- A commit takes one number of those that are left. -/
theorem room_commit (hroom : 0 < s.room) (d : Document) :
    s.watermark ≠ PostingsId.last ∧ (s.commit d).room + 1 = s.room := by
  have hne : s.watermark ≠ PostingsId.last := by
    intro heq
    rw [room, heq, Nat.sub_self] at hroom
    exact absurd hroom (Nat.lt_irrefl 0)
  have hwatermark := watermark_commit hne d
  unfold room at hroom ⊢
  exact ⟨hne, by omega⟩

theorem same_identify (s : Mutable) (d : Document) : SameDocuments s (s.identify d).2 := by
  unfold identify
  split
  · exact .refl s
  · exact ⟨rfl, rfl, rfl, rfl⟩

/-- Whether an identifier was given or drawn, the document is valid with it. -/
theorem validate_of_identify {d : Document} (hd : d.validate = .ok ()) {id : Bytes} {isDrawn : Bool}
    (h : (s.identify d).1 = .ok (id, isDrawn)) :
    Document.validate { d with id := some id } = .ok () := by
  apply Document.validate_with_id hd
  unfold identify at h
  split at h
  · next hx =>
    cases h
    obtain ⟨-, hid, -⟩ := Document.validate_eq_ok.mp hd
    exact hid id hx
  · obtain ⟨x, hx, heq⟩ := Results.map_eq_ok h
    cases heq
    obtain ⟨u, hu, heq⟩ := Results.map_eq_ok hx
    rw [← heq]
    exact hu

/-- The dictionary has the identifiers of the documents, and no others. -/
theorem Represents.containsIdentifier_iff (h : s.Represents docs) {id : Bytes} {c : Bool}
    (hc : s.containsIdentifier id = .ok c) : c = true ↔ some id ∈ docs.map Document.id := by
  rw [Dictionary.containsTerm_eq_ok h.dictionary hc]
  simp only [mem_logOf]
  constructor
  · rintro ⟨-, i, d, hd, -, hterm⟩
    have hmem := List.mem_of_getElem? hd
    refine List.mem_map.mpr ⟨d, hmem, ?_⟩
    cases List.mem_append.mp hterm with
    | inl hfield =>
      -- The reserved name is the name of no field.
      obtain ⟨-, -, hfields⟩ := Document.validate_eq_ok.mp (h.valid d hmem)
      obtain ⟨-, hname, -⟩ := Document.validateField_eq_ok.mp (hfields _ hfield)
      exact absurd rfl hname
    | inr hid =>
      obtain ⟨x, hx, heq⟩ := List.mem_map.mp hid
      cases heq
      exact Option.mem_toList.mp hx
  · intro hmem
    obtain ⟨d, hd, hid⟩ := List.mem_map.mp hmem
    obtain ⟨i, hi⟩ := List.mem_iff_getElem?.mp hd
    exact ⟨_, i, d, hi, rfl, by simp [termsOf, hid]⟩

/-- An identifier that the dictionary does not have belongs to no document. -/
theorem Represents.not_mem_of_containsIdentifier (h : s.Represents docs) {id : Bytes}
    (hid : s.containsIdentifier id = .ok false) : some id ∉ docs.map Document.id := by
  intro hmem
  cases (h.containsIdentifier_iff hid).mpr hmem

/-- An insertion either fails and leaves the documents alone or commits the document. -/
theorem insert_cases (s : Mutable) (d : Document) :
    ((∃ e, (s.insert d).result = .error e) ∧ SameDocuments s (s.insert d).segment) ∨
      ∃ s' id isDrawn, s.identify d = (.ok (id, isDrawn), s') ∧ d.validate = .ok () ∧
        s'.containsIdentifier id = .ok false ∧ s'.watermark ≠ PostingsId.last ∧
        s.insert d =
          ⟨s'.commit { d with id := some id }, { d with id := some id }, .ok s'.watermark⟩ := by
  unfold insert
  split
  · next e he => exact .inl ⟨⟨e, rfl⟩, .refl s⟩
  · split
    · next e he => exact .inl ⟨⟨e, rfl⟩, .refl s⟩
    · next hvalid =>
      have hsame := same_identify s d
      unfold insertWritable
      split
      · next e s' hs' =>
        rw [hs'] at hsame
        exact .inl ⟨⟨e, rfl⟩, hsame⟩
      · next id isDrawn s' hs' =>
        rw [hs'] at hsame
        split
        · next e he => exact .inl ⟨⟨e, rfl⟩, hsame⟩
        · exact .inl ⟨⟨_, rfl⟩, hsame⟩
        · next hnew =>
          split
          · exact .inl ⟨⟨_, rfl⟩, hsame⟩
          · next hroom => exact .inr ⟨s', id, isDrawn, hs', hvalid, hnew, hroom, rfl⟩

/-- A document that is taken in comes after the others and gets the next number. -/
theorem represents_insert (h : s.Represents docs) {d : Document} {id : PostingsId}
    (hd : (s.insert d).result = .ok id) :
    (s.insert d).segment.Represents (docs ++ [(s.insert d).document]) ∧
      id = idAt s.offset docs.length := by
  cases insert_cases s d with
  | inl hfail =>
    obtain ⟨⟨e, he⟩, -⟩ := hfail
    rw [he] at hd
    cases hd
  | inr hdone =>
    obtain ⟨s', x, isDrawn, hidentify, hvalid, hnew, hroom, heq⟩ := hdone
    have hsame : SameDocuments s s' := by simpa [hidentify] using same_identify s d
    have hs' := h.of_same hsame
    have hwith := validate_of_identify hvalid (congrArg Prod.fst hidentify)
    rw [heq] at hd ⊢
    refine ⟨represents_commit hs' hwith rfl (hs'.not_mem_of_containsIdentifier hnew) hroom, ?_⟩
    rw [← Except.ok.inj hd, ← hs'.idAt_length, hsame.offset]

theorem grows_insert (s : Mutable) (d : Document) : Grows s (s.insert d).segment := by
  cases insert_cases s d with
  | inl hfail => exact .of_same hfail.2
  | inr hdone =>
    obtain ⟨s', x, isDrawn, hidentify, hvalid, hnew, hroom, heq⟩ := hdone
    have hsame : SameDocuments s s' := by simpa [hidentify] using same_identify s d
    refine ⟨?_, ?_, ?_⟩
    · rw [heq, offset_commit, hsame.offset]
    · rw [heq, strategy_commit, hsame.dictionary]
    · intro docs h
      have hresult : (s.insert d).result = .ok s'.watermark := by rw [heq]
      exact ⟨_, (represents_insert h hresult).1⟩

/-- Where a resolution stands, seen from the documents that were there before: what it accepted can
be committed after them. -/
structure Resolution.Sound (s : Mutable) (r : Resolution) : Prop where
  same : SameDocuments s r.segment
  valid : ∀ p ∈ r.accepted, p.2.validate = .ok ()
  seen : ∀ p ∈ r.accepted, ∃ id ∈ r.seen, p.2.id = some id
  distinct : (r.accepted.map fun p => p.2.id).Nodup
  fresh : ∀ docs, s.Represents docs → ∀ p ∈ r.accepted, p.2.id ∉ docs.map Document.id

namespace Resolution

variable {r : Resolution} (isPartial : Bool)

/-- What is noted about identifiers and failures matters to no later commit. -/
theorem Sound.noted (h : Sound s r) {s' : Mutable} (hs : SameDocuments r.segment s')
    {seen : List Bytes} (hseen : r.seen ⊆ seen) (failures : List (Nat × Error)) :
    Sound s ⟨s', seen, r.accepted, failures⟩ where
  same := ⟨hs.offset.trans h.same.offset, hs.watermark.trans h.same.watermark,
    hs.slots.trans h.same.slots, hs.dictionary.trans h.same.dictionary⟩
  valid := h.valid
  seen p hp := by
    obtain ⟨id, hid, heq⟩ := h.seen p hp
    exact ⟨id, hseen hid, heq⟩
  distinct := h.distinct
  fresh := h.fresh

theorem Sound.refuse (h : Sound s r) (index : Nat) (e : Error) :
    Sound s (r.refuse isPartial index e).1 := by
  unfold Resolution.refuse
  split
  · exact h.noted (.refl _) (List.Subset.refl _) _
  · exact h

theorem Sound.accept (h : Sound s r) {d : Document} {id : Bytes}
    (hd : Document.validate { d with id := some id } = .ok ()) (hid : id ∉ r.seen)
    (hnew : r.segment.containsIdentifier id = .ok false) (index : Nat) :
    Sound s { r with
      seen := id :: r.seen
      accepted := (index, { d with id := some id }) :: r.accepted } where
  same := h.same
  valid := by
    intro p hp
    cases List.mem_cons.mp hp with
    | inl hp => rwa [hp]
    | inr hp => exact h.valid p hp
  seen := by
    intro p hp
    cases List.mem_cons.mp hp with
    | inl hp => exact ⟨id, List.mem_cons_self, by rw [hp]⟩
    | inr hp =>
      obtain ⟨x, hx, heq⟩ := h.seen p hp
      exact ⟨x, List.mem_cons_of_mem id hx, heq⟩
  distinct := by
    rw [List.map_cons, List.nodup_cons]
    refine ⟨?_, h.distinct⟩
    intro hmem
    obtain ⟨p, hp, hpid⟩ := List.mem_map.mp hmem
    obtain ⟨x, hx, heq⟩ := h.seen p hp
    have hxid : x = id := Option.some.inj (heq.symm.trans hpid)
    exact hid (hxid ▸ hx)
  fresh := by
    intro docs hdocs p hp
    cases List.mem_cons.mp hp with
    | inl hp =>
      rw [hp]
      exact (hdocs.of_same h.same).not_mem_of_containsIdentifier hnew
    | inr hp => exact h.fresh docs hdocs p hp

/-- What was accepted can still be committed when one more document is settled. -/
theorem sound_step (h : Sound s r) (index : Nat) {d : Document} (hd : d.validate = .ok ()) :
    Sound s (r.step isPartial index d).1 := by
  have hsame := same_identify r.segment d
  unfold step
  split
  · next e s' hs' =>
    rw [hs'] at hsame
    exact (h.noted hsame (List.Subset.refl _) r.failures).refuse isPartial index e
  · next id isDrawn s' hs' =>
    rw [hs'] at hsame
    have hwith := validate_of_identify hd (congrArg Prod.fst hs')
    have hmet := h.noted hsame (List.subset_cons_self id r.seen) r.failures
    dsimp only
    by_cases hrepeated : r.seen.contains id = true
    · rw [if_pos hrepeated]
      exact hmet.refuse isPartial index _
    · have hid : id ∉ r.seen := fun hmem => hrepeated (List.contains_iff_mem.mpr hmem)
      rw [if_neg hrepeated]
      split
      · exact hmet
      · split
        · exact hmet.refuse isPartial index _
        · exact hmet
      · next hnew =>
        exact (h.noted hsame (List.Subset.refl _) r.failures).accept hwith hid hnew index

theorem sound_run (h : Sound s r) {ds : List (Nat × Document)}
    (hds : ∀ p ∈ ds, p.2.validate = .ok ()) : Sound s (run isPartial r ds).1 := by
  induction ds generalizing r with
  | nil => exact h
  | cons p ds ih =>
    obtain ⟨index, d⟩ := p
    have hstep := sound_step isPartial h index (hds _ List.mem_cons_self)
    rw [run]
    split
    · next r' e hr' =>
      rw [hr'] at hstep
      exact hstep
    · next r' hr' =>
      rw [hr'] at hstep
      exact ih hstep fun p hp => hds p (List.mem_cons_of_mem _ hp)

theorem sound_start (s : Mutable) (failures : List (Nat × Error)) :
    Sound s ⟨s, [], [], failures⟩ where
  same := .refl s
  valid := by simp
  seen := by simp
  distinct := by simp
  fresh := by simp

end Resolution

/-- New documents that there are numbers for are committed in their order. -/
theorem represents_foldl_commit (h : s.Represents docs) {added : List Document}
    (hvalid : ∀ d ∈ added, d.validate = .ok ()) (hid : ∀ d ∈ added, d.id.isSome = true)
    (hdistinct : ((docs ++ added).map Document.id).Nodup) (hroom : added.length ≤ s.room) :
    (added.foldl commit s).Represents (docs ++ added) := by
  induction added generalizing s docs with
  | nil => simpa using h
  | cons d added ih =>
    rw [List.length_cons] at hroom
    obtain ⟨hne, hleft⟩ := room_commit (Nat.zero_lt_of_lt hroom) d
    have hnew : d.id ∉ docs.map Document.id := by
      intro hmem
      rw [List.map_append, List.nodup_append] at hdistinct
      exact hdistinct.2.2 d.id hmem d.id (by simp) rfl
    have hcommit := represents_commit h (hvalid d (by simp)) (hid d (by simp)) hnew hne
    have hlater : added.length ≤ (s.commit d).room := by omega
    have happend : docs ++ d :: added = docs ++ [d] ++ added := by simp
    rw [happend] at hdistinct ⊢
    exact ih hcommit (fun e he => hvalid e (by simp [he])) (fun e he => hid e (by simp [he]))
      hdistinct hlater

theorem offset_foldl_commit (s : Mutable) (added : List Document) :
    (added.foldl commit s).offset = s.offset := by
  induction added generalizing s with
  | nil => rfl
  | cons d added ih => rw [List.foldl_cons, ih, offset_commit]

theorem strategy_foldl_commit (s : Mutable) (added : List Document) :
    (added.foldl commit s).dictionary.strategy = s.dictionary.strategy := by
  induction added generalizing s with
  | nil => rfl
  | cons d added ih => rw [List.foldl_cons, ih, strategy_commit]

/-- What a resolution accepted is committed in order after the documents that were there. -/
theorem represents_commitAll {r : Resolution} (hr : r.Sound s) (h : s.Represents docs)
    (hroom : r.accepted.length ≤ r.segment.room) :
    ((r.accepted.reverse.map Prod.snd).foldl commit r.segment).Represents
      (docs ++ r.accepted.reverse.map Prod.snd) := by
  apply represents_foldl_commit (h.of_same hr.same)
  · intro d hd
    obtain ⟨p, hp, rfl⟩ := List.mem_map.mp hd
    exact hr.valid p (List.mem_reverse.mp hp)
  · intro d hd
    obtain ⟨p, hp, rfl⟩ := List.mem_map.mp hd
    obtain ⟨id, -, hid⟩ := hr.seen p (List.mem_reverse.mp hp)
    simp [hid]
  · have hids : (r.accepted.reverse.map Prod.snd).map Document.id
        = (r.accepted.map fun p => p.2.id).reverse := by
      simp [List.map_reverse, Function.comp_def]
    rw [List.map_append, hids, List.nodup_append]
    refine ⟨h.distinct, List.nodup_reverse.mpr hr.distinct, ?_⟩
    intro x hx y hy heq
    obtain ⟨p, hp, rfl⟩ := List.mem_map.mp (List.mem_reverse.mp hy)
    exact hr.fresh docs h p hp (heq ▸ hx)
  · simpa using hroom

theorem grows_commitAll {r : Resolution} (hr : r.Sound s) (b : Batch) :
    Grows s (commitAll r b).segment := by
  have hfold : r.accepted.reverse.foldl (fun s p => s.commit p.2) r.segment
      = (r.accepted.reverse.map Prod.snd).foldl commit r.segment := by
    rw [List.foldl_map]
  unfold commitAll
  dsimp only
  split
  · exact .of_same hr.same
  · next hroom =>
    rw [List.length_reverse] at hroom
    dsimp only
    rw [hfold]
    refine ⟨?_, ?_, ?_⟩
    · rw [offset_foldl_commit, hr.same.offset]
    · rw [strategy_foldl_commit, hr.same.dictionary]
    · intro docs h
      exact ⟨_, represents_commitAll hr h (Nat.le_of_not_lt hroom)⟩

theorem validate_of_mem_validIn {b : Batch} {p : Nat × Document} (hp : p ∈ validIn b) :
    p.2.validate = .ok () := by
  obtain ⟨⟨d, i⟩, -, hd⟩ := List.mem_filterMap.mp hp
  dsimp only at hd
  split at hd
  · next hvalid =>
    cases hd
    dsimp only
    cases hresult : d.validate with
    | ok u => rfl
    | error e => simp [hresult, Except.toBool] at hvalid
  · cases hd

/-- However a batch ends, the documents that were there keep their numbers. -/
theorem grows_insertBatch (s : Mutable) (b : Batch) : Grows s (s.insertBatch b).segment := by
  unfold insertBatch
  split
  · exact .refl s
  · unfold insertBatchWritable
    split
    · exact .refl s
    · next invalid hinvalid =>
      have hstart := Resolution.sound_start s (invalidIn b).reverse
      have hvalid : ∀ p ∈ validIn b, p.2.validate = .ok () := fun p => validate_of_mem_validIn
      have hsound := Resolution.sound_run b.isPartial hstart hvalid
      split
      · next r e hr =>
        rw [hr] at hsound
        exact .of_same hsound.same
      · next r hr =>
        rw [hr] at hsound
        exact grows_commitAll hsound b

end InvertedIndex.Segment.Mutable
