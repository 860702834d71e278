import InvertedIndex.Proofs.Segment.Batches
import Mathlib.Algebra.Order.Ring.Nat

namespace InvertedIndex.Segment.Mutable

section

variable (s : Mutable) (docs ds : List Document)

/-- How many identifiers are drawn for the documents before a place. -/
def drawnBefore (i : Nat) : Nat :=
  ((ds.take i).map fun d => if d.validate.toBool then draws d else 0).sum

/-- The identifier that the document at a place has or that is drawn for it. -/
def offered (i : Nat) (d : Document) : Bytes := d.id.getD (s.generator (s.drawn + drawnBefore ds i))

/-- The valid document at a place has this identifier, or it is drawn for it and valid. -/
def Resolves (i : Nat) (id : Bytes) : Prop :=
  ∃ d, ds[i]? = some d ∧ d.validate = .ok () ∧ Document.validateId id = .ok () ∧ id = offered s ds i d

/-- Why the document at a place is refused. -/
inductive Refused (i : Nat) : Prop where
  | invalid {d : Document} (here : ds[i]? = some d) (fault : d.validate ≠ .ok ())
  | repeated {d : Document} (here : ds[i]? = some d) {j : Nat} (before : j < i)
    (same : Resolves s ds j (offered s ds i d))
  | drawnInvalid {d : Document} (here : ds[i]? = some d) (anonymous : d.id = none)
    (fault : Document.validateId (offered s ds i d) ≠ .ok ())
  | drawnIndexed {d : Document} (here : ds[i]? = some d) (anonymous : d.id = none)
    (indexed : some (offered s ds i d) ∈ docs.map Document.id)

/-- The document at a place is committed, and is then `d'`. -/
def Commits (i : Nat) (d' : Document) : Prop :=
  ∃ d, ds[i]? = some d ∧ ¬ Refused s docs ds i ∧ some (offered s ds i d) ∉ docs.map Document.id ∧
    d' = { d with id := some (offered s ds i d) }

end

variable {s : Mutable} {docs ds : List Document} {k : Nat} {d : Document}

theorem drawnBefore_succ (hd : ds[k]? = some d) :
    drawnBefore ds (k + 1) = drawnBefore ds k + if d.validate.toBool then draws d else 0 := by
  rw [drawnBefore, drawnBefore, List.take_add_one, hd]
  simp

/-- Which identifier a valid document is resolved to, if the segment has come to it. -/
theorem identify_eq (hd : d.validate = .ok ()) :
    ((s.drawMore (drawnBefore ds k)).identify d).1 =
      (Document.validateId (offered s ds k d)).map fun () => (offered s ds k d, d.id.isNone) := by
  rw [identify, offered]
  cases hid : d.id with
  | none =>
    simp only [draw, drawMore, Option.getD_none, Option.isNone_none]
    cases Document.validateId (s.generator (s.drawn + drawnBefore ds k)) <;> rfl
  | some id =>
    have hvalid := (Document.validate_eq_ok.mp hd).2.1 id hid
    simp only [Option.getD_some, Option.isNone_some, hvalid]
    rfl

/-- A given identifier is valid where the document is. -/
theorem id_eq_none_of_fault (hd : d.validate = .ok ())
    (hfault : Document.validateId (offered s ds k d) ≠ .ok ()) : d.id = none := by
  rw [offered] at hfault
  cases hid : d.id with
  | none => rfl
  | some id =>
    rw [hid, Option.getD_some] at hfault
    exact absurd ((Document.validate_eq_ok.mp hd).2.1 id hid) hfault

theorem resolves_iff (hd : ds[k]? = some d) {id : Bytes} :
    Resolves s ds k id ↔
      d.validate = .ok () ∧ Document.validateId id = .ok () ∧ id = offered s ds k d := by
  constructor
  · rintro ⟨e, he, hrest⟩
    rw [hd] at he
    cases he
    exact hrest
  · exact fun hrest => ⟨d, hd, hrest⟩

theorem refused_iff (hd : ds[k]? = some d) (hvalid : d.validate = .ok ()) :
    Refused s docs ds k ↔ (∃ j < k, Resolves s ds j (offered s ds k d)) ∨
      d.id = none ∧ (Document.validateId (offered s ds k d) ≠ .ok () ∨
        some (offered s ds k d) ∈ docs.map Document.id) := by
  constructor
  · intro h
    cases h with
    | invalid here fault =>
      rw [hd] at here
      cases here
      exact absurd hvalid fault
    | repeated here before same =>
      rw [hd] at here
      cases here
      exact .inl ⟨_, before, same⟩
    | drawnInvalid here anonymous fault =>
      rw [hd] at here
      cases here
      exact .inr ⟨anonymous, .inl fault⟩
    | drawnIndexed here anonymous indexed =>
      rw [hd] at here
      cases here
      exact .inr ⟨anonymous, .inr indexed⟩
  · rintro (⟨j, before, same⟩ | ⟨anonymous, fault | indexed⟩)
    · exact .repeated hd before same
    · exact .drawnInvalid hd anonymous fault
    · exact .drawnIndexed hd anonymous indexed

theorem commits_iff (hd : ds[k]? = some d) {d' : Document} :
    Commits s docs ds k d' ↔ ¬ Refused s docs ds k ∧
      some (offered s ds k d) ∉ docs.map Document.id ∧
        d' = { d with id := some (offered s ds k d) } := by
  constructor
  · rintro ⟨e, he, hrest⟩
    rw [hd] at he
    cases he
    exact hrest
  · exact fun hrest => ⟨d, hd, hrest⟩

namespace Resolution

variable {r r' : Resolution}

/-- Where a resolution stands before the place `k`: all invalid documents are refused already, of the
others those before `k` are settled. -/
structure Accounts (s : Mutable) (docs ds : List Document) (k : Nat) (r : Resolution) : Prop where
  segment : r.segment = s.drawMore (drawnBefore ds k)
  seen : ∀ id, id ∈ r.seen ↔ ∃ j < k, Resolves s ds j id
  answered : ∀ id ∈ r.seen, ∃ c, s.containsIdentifier id = .ok c
  refused : ∀ i, i ∈ r.failures.map Prod.fst ↔
    (∃ d, ds[i]? = some d ∧ d.validate ≠ .ok ()) ∨ i < k ∧ Refused s docs ds i
  once : (r.failures.map Prod.fst).Nodup
  accepted : ∀ i d', (i, d') ∈ r.accepted ↔ i < k ∧ Commits s docs ds i d'
  inOrder : r.accepted.Pairwise fun p q => q.1 < p.1

/-- An invalid document is settled from the beginning. -/
theorem Accounts.invalid (h : r.Accounts s docs ds k) (hd : ds[k]? = some d)
    (hinvalid : d.validate ≠ .ok ()) : r.Accounts s docs ds (k + 1) where
  segment := by
    have htoBool : d.validate.toBool = false := by
      cases hresult : d.validate with
      | error e => rfl
      | ok u => exact absurd hresult hinvalid
    rw [drawnBefore_succ hd, htoBool]
    exact h.segment
  seen id := by
    rw [h.seen, Nat.exists_lt_succ_right]
    refine (or_iff_left fun hresolves => ?_).symm
    exact hinvalid ((resolves_iff hd).mp hresolves).1
  answered := h.answered
  refused i := by
    rw [h.refused, Nat.lt_succ_iff_lt_or_eq]
    constructor
    · exact Or.imp_right fun hi => ⟨.inl hi.1, hi.2⟩
    · rintro (hi | ⟨hlt | rfl, hi⟩)
      · exact .inl hi
      · exact .inr ⟨hlt, hi⟩
      · exact .inl ⟨d, hd, hinvalid⟩
  once := h.once
  accepted i d' := by
    rw [h.accepted, Nat.lt_succ_iff_lt_or_eq]
    constructor
    · exact fun hi => ⟨.inl hi.1, hi.2⟩
    · rintro ⟨hlt | rfl, hi⟩
      · exact ⟨hlt, hi⟩
      · exact absurd (.invalid hd hinvalid) ((commits_iff hd).mp hi).1
  inOrder := h.inOrder

/-- A valid document is settled by what is noted of it. -/
theorem Accounts.settle (h : r.Accounts s docs ds k) (hd : ds[k]? = some d)
    (hvalid : d.validate = .ok ()) (hsegment : r'.segment = r.segment.drawMore (draws d))
    (hseen : ∀ id, id ∈ r'.seen ↔ id ∈ r.seen ∨ Resolves s ds k id)
    (hanswered : ∀ id, Resolves s ds k id → ∃ c, s.containsIdentifier id = .ok c)
    (hfailures : Refused s docs ds k ∧ (∃ e, r'.failures = (k, e) :: r.failures) ∨
      ¬ Refused s docs ds k ∧ r'.failures = r.failures)
    (haccepted : (∃ d', Commits s docs ds k d' ∧ r'.accepted = (k, d') :: r.accepted) ∨
      (∀ d', ¬ Commits s docs ds k d') ∧ r'.accepted = r.accepted) :
    r'.Accounts s docs ds (k + 1) where
  segment := by
    rw [hsegment, h.segment, drawMore_drawMore, drawnBefore_succ hd, hvalid]
    rfl
  seen id := by rw [hseen, h.seen, Nat.exists_lt_succ_right]
  answered id hid := by
    cases (hseen id).mp hid with
    | inl hid => exact h.answered id hid
    | inr hid => exact hanswered id hid
  refused i := by
    rw [Nat.lt_succ_iff_lt_or_eq]
    rcases hfailures with ⟨hrefused, e, hcons⟩ | ⟨hkept, hsame⟩
    · rw [hcons, List.map_cons, List.mem_cons, h.refused]
      grind
    · rw [hsame, h.refused]
      grind
  once := by
    rcases hfailures with ⟨-, e, hcons⟩ | ⟨-, hsame⟩
    · rw [hcons, List.map_cons, List.nodup_cons]
      refine ⟨fun hmem => ?_, h.once⟩
      rcases (h.refused k).mp hmem with ⟨e, he, hinvalid⟩ | ⟨hlt, -⟩
      · rw [hd] at he
        cases he
        exact hinvalid hvalid
      · exact Nat.lt_irrefl k hlt
    · rw [hsame]
      exact h.once
  accepted i d' := by
    rw [Nat.lt_succ_iff_lt_or_eq]
    rcases haccepted with ⟨c, hcommits, hcons⟩ | ⟨hnone, hsame⟩
    · have honly : ∀ d', Commits s docs ds k d' ↔ d' = c := by
        intro d'
        rw [commits_iff hd] at hcommits ⊢
        grind
      rw [hcons, List.mem_cons, h.accepted, Prod.mk.injEq]
      grind
    · rw [hsame, h.accepted]
      grind
  inOrder := by
    rcases haccepted with ⟨c, -, hcons⟩ | ⟨-, hsame⟩
    · rw [hcons, List.pairwise_cons]
      exact ⟨fun p hp => ((h.accepted p.1 p.2).mp hp).1, h.inOrder⟩
    · rw [hsame]
      exact h.inOrder

/-- An identifier that was met before belongs to a document before. -/
theorem Accounts.refused_of_met (h : r.Accounts s docs ds k) (hd : ds[k]? = some d)
    (hmet : offered s ds k d ∈ r.seen) : Refused s docs ds k := by
  obtain ⟨j, hj, hsame⟩ := (h.seen _).mp hmet
  exact .repeated hd hj hsame

theorem Accounts.containsIdentifier_eq (h : r.Accounts s docs ds k) (id : Bytes) :
    r.segment.containsIdentifier id = s.containsIdentifier id := by
  rw [h.segment]
  rfl

theorem Accounts.identify_eq (h : r.Accounts s docs ds k) (hvalid : d.validate = .ok ()) :
    (r.segment.identify d).1 =
      (Document.validateId (offered s ds k d)).map fun () => (offered s ds k d, d.id.isNone) := by
  rw [h.segment]
  exact Mutable.identify_eq hvalid

theorem Accounts.offered_of_identify (h : r.Accounts s docs ds k) (hvalid : d.validate = .ok ())
    {id : Bytes} {isDrawn : Bool} (heq : (r.segment.identify d).1 = .ok (id, isDrawn)) :
    Document.validateId (offered s ds k d) = .ok () ∧ offered s ds k d = id ∧
      d.id.isNone = isDrawn := by
  rw [h.identify_eq hvalid] at heq
  obtain ⟨u, hu, heq⟩ := Results.map_eq_ok heq
  exact ⟨hu, (Prod.mk.inj heq).1, (Prod.mk.inj heq).2⟩

/-- A document with an identifier is refused at most for one that was met before, and one without
also if what is drawn for it is indexed. -/
theorem Accounts.kept (h : r.Accounts s docs ds k) (hd : ds[k]? = some d)
    (hvalid : d.validate = .ok ()) (hfine : Document.validateId (offered s ds k d) = .ok ())
    (hunmet : offered s ds k d ∉ r.seen)
    (hnew : d.id = none → some (offered s ds k d) ∉ docs.map Document.id) : ¬ Refused s docs ds k := by
  rw [refused_iff hd hvalid, ← h.seen]
  rintro (hmet | ⟨hanonymous, hfault | hindexed⟩)
  · exact hunmet hmet
  · exact hfault hfine
  · exact hnew hanonymous hindexed

theorem mem_cons_offered (hd : ds[k]? = some d) (hvalid : d.validate = .ok ())
    (hfine : Document.validateId (offered s ds k d) = .ok ()) {seen : List Bytes} (id : Bytes) :
    id ∈ offered s ds k d :: seen ↔ id ∈ seen ∨ Resolves s ds k id := by
  rw [List.mem_cons, resolves_iff hd, or_comm]
  grind

theorem answered_of_resolves (hd : ds[k]? = some d) {c : Bool}
    (hc : s.containsIdentifier (offered s ds k d) = .ok c) (id : Bytes) (hid : Resolves s ds k id) :
    ∃ c, s.containsIdentifier id = .ok c := by
  obtain ⟨-, -, rfl⟩ := (resolves_iff hd).mp hid
  exact ⟨c, hc⟩

/-- Settling one more document leaves the others as they were settled. -/
theorem Accounts.step (h : r.Accounts s docs ds k) (hdocs : s.Represents docs) (hd : ds[k]? = some d)
    (hvalid : d.validate = .ok ()) (hsteps : r.Steps k d r') : r'.Accounts s docs ds (k + 1) := by
  cases hsteps with
  | unidentified fault =>
    have hfault : Document.validateId (offered s ds k d) ≠ .ok () := by
      intro hfine
      rw [h.identify_eq hvalid, hfine] at fault
      cases fault
    have hnever (id : Bytes) : ¬ Resolves s ds k id := by
      intro hid
      obtain ⟨-, hfine, rfl⟩ := (resolves_iff hd).mp hid
      exact hfault hfine
    have hrefused : Refused s docs ds k :=
      .drawnInvalid hd (id_eq_none_of_fault hvalid hfault) hfault
    exact h.settle hd hvalid rfl (fun id => (or_iff_left (hnever id)).symm)
      (fun id hid => absurd hid (hnever id)) (.inl ⟨hrefused, _, rfl⟩)
      (.inr ⟨fun d' hcommits => ((commits_iff hd).mp hcommits).1 hrefused, rfl⟩)
  | refused identified known =>
    obtain ⟨hfine, rfl, hdrawn⟩ := h.offered_of_identify hvalid identified
    have hrefused : Refused s docs ds k ∧ ∃ c, s.containsIdentifier (offered s ds k d) = .ok c := by
      rcases known with hmet | ⟨-, rfl, hindexed⟩
      · exact ⟨h.refused_of_met hd hmet, h.answered _ hmet⟩
      · rw [h.containsIdentifier_eq] at hindexed
        have hmem := (hdocs.containsIdentifier_iff hindexed).mp rfl
        exact ⟨.drawnIndexed hd (Option.isNone_iff_eq_none.mp hdrawn) hmem, true, hindexed⟩
    obtain ⟨hrefused, c, hc⟩ := hrefused
    exact h.settle hd hvalid rfl (mem_cons_offered hd hvalid hfine) (answered_of_resolves hd hc)
      (.inl ⟨hrefused, _, rfl⟩)
      (.inr ⟨fun d' hcommits => ((commits_iff hd).mp hcommits).1 hrefused, rfl⟩)
  | passed identified unmet known =>
    obtain ⟨hfine, rfl, hgiven⟩ := h.offered_of_identify hvalid identified
    rw [h.containsIdentifier_eq] at known
    have hmem := (hdocs.containsIdentifier_iff known).mp rfl
    have hkept : ¬ Refused s docs ds k := by
      refine h.kept hd hvalid hfine unmet fun hanonymous => ?_
      rw [hanonymous] at hgiven
      cases hgiven
    exact h.settle hd hvalid rfl (mem_cons_offered hd hvalid hfine) (answered_of_resolves hd known)
      (.inr ⟨hkept, rfl⟩)
      (.inr ⟨fun d' hcommits => ((commits_iff hd).mp hcommits).2.1 hmem, rfl⟩)
  | accepted identified unmet unknown =>
    obtain ⟨hfine, rfl, -⟩ := h.offered_of_identify hvalid identified
    rw [h.containsIdentifier_eq] at unknown
    have hnew := hdocs.not_mem_of_containsIdentifier unknown
    have hkept : ¬ Refused s docs ds k := h.kept hd hvalid hfine unmet fun _ => hnew
    exact h.settle hd hvalid rfl (mem_cons_offered hd hvalid hfine) (answered_of_resolves hd unknown)
      (.inr ⟨hkept, rfl⟩)
      (.inl ⟨_, (commits_iff hd).mpr ⟨hkept, hnew, rfl⟩, rfl⟩)

/-- After the rest of a batch all of it is settled. -/
theorem Accounts.run (h : r.Accounts s docs ds k) (hdocs : s.Represents docs) {isPartial : Bool}
    {rest : List Document} (hrest : ds.drop k = rest) (hk : k ≤ ds.length)
    (hrun : Resolution.run isPartial r (validFrom k rest) = (r', none)) :
    r'.Accounts s docs ds ds.length := by
  induction rest generalizing r k with
  | nil =>
    cases hrun
    obtain rfl : k = ds.length := Nat.le_antisymm hk (List.drop_eq_nil_iff.mp hrest)
    exact h
  | cons d rest ih =>
    have hd : ds[k]? = some d := by
      rw [← List.head?_drop, hrest]
      rfl
    have hlt : k < ds.length := (List.getElem?_eq_some_iff.mp hd).1
    have hnext : ds.drop (k + 1) = rest := by
      rw [← List.tail_drop, hrest]
      rfl
    rw [validFrom_cons] at hrun
    cases hvalid : d.validate with
    | error e =>
      have hinvalid : d.validate ≠ .ok () := by simp [hvalid]
      rw [hvalid] at hrun
      exact ih (h.invalid hd hinvalid) hnext hlt hrun
    | ok u =>
      rw [hvalid] at hrun
      simp only [Except.toBool, if_true, Resolution.run] at hrun
      split at hrun
      · cases (Prod.mk.inj hrun).2
      · next r₁ hstep => exact ih (h.step hdocs hd hvalid (steps_of_step hstep)) hnext hlt hrun

theorem mem_map_fst_invalidIn {b : Batch} {i : Nat} :
    i ∈ (invalidIn b).map Prod.fst ↔ ∃ d, b.documents[i]? = some d ∧ d.validate ≠ .ok () := by
  rw [invalidIn, List.mem_map]
  constructor
  · rintro ⟨⟨_, e⟩, hmem, rfl⟩
    obtain ⟨⟨d, j⟩, hd, hfault⟩ := List.mem_filterMap.mp hmem
    dsimp only at hfault
    split at hfault
    · next hinvalid =>
      cases hfault
      exact ⟨d, List.mem_zipIdx_iff_getElem?.mp hd, by simp [hinvalid]⟩
    · cases hfault
  · rintro ⟨d, hd, hinvalid⟩
    cases hvalid : d.validate with
    | ok u => exact absurd hvalid hinvalid
    | error e =>
      refine ⟨(i, e), List.mem_filterMap.mpr ⟨(d, i), List.mem_zipIdx_iff_getElem?.mpr hd, ?_⟩, rfl⟩
      simp [hvalid]

theorem nodup_map_fst_invalidIn (b : Batch) : ((invalidIn b).map Prod.fst).Nodup := by
  have hplaces : (b.documents.zipIdx.map Prod.snd).Pairwise (· ≠ ·) := by
    rw [List.zipIdx_map_snd]
    exact List.nodup_range'
  rw [invalidIn, List.Nodup, List.pairwise_map, List.pairwise_filterMap]
  refine (List.pairwise_map.mp hplaces).imp fun {p q} hne x hx y hy => ?_
  dsimp only at hx hy
  split at hx <;> cases hx
  split at hy <;> cases hy
  exact hne

theorem accounts_start (s : Mutable) (docs : List Document) (b : Batch) :
    Accounts s docs b.documents 0 ⟨s, [], [], (invalidIn b).reverse⟩ where
  segment := rfl
  seen := by simp
  answered := by simp
  refused i := by
    rw [List.map_reverse, List.mem_reverse, mem_map_fst_invalidIn]
    simp
  once := by
    rw [List.map_reverse, List.nodup_reverse]
    exact nodup_map_fst_invalidIn b
  accepted := by simp
  inOrder := List.Pairwise.nil

end Resolution

theorem Refused.lt {i : Nat} (h : Refused s docs ds i) : i < ds.length := by
  have hhere : ∃ d, ds[i]? = some d := by
    cases h with
    | invalid here _ => exact ⟨_, here⟩
    | repeated here _ _ => exact ⟨_, here⟩
    | drawnInvalid here _ _ => exact ⟨_, here⟩
    | drawnIndexed here _ _ => exact ⟨_, here⟩
  obtain ⟨d, hd⟩ := hhere
  exact (List.getElem?_eq_some_iff.mp hd).1

theorem resolves_of_kept (hd : ds[k]? = some d) (hkept : ¬ Refused s docs ds k) :
    Resolves s ds k (offered s ds k d) := by
  have hvalid : d.validate = .ok () := by
    by_contra hinvalid
    exact hkept (.invalid hd hinvalid)
  have hfine : Document.validateId (offered s ds k d) = .ok () := by
    by_contra hfault
    exact hkept (.drawnInvalid hd (id_eq_none_of_fault hvalid hfault) hfault)
  exact ⟨d, hd, hvalid, hfine, rfl⟩

/-- A document that is neither refused nor committed was given an identifier that is indexed. -/
theorem indexed_of_passed (hd : ds[k]? = some d) (hkept : ¬ Refused s docs ds k)
    (hpassed : ∀ d', ¬ Commits s docs ds k d') :
    ∃ id, d.id = some id ∧ some id ∈ docs.map Document.id := by
  have hindexed : some (offered s ds k d) ∈ docs.map Document.id := by
    by_contra hnew
    exact hpassed _ ((commits_iff hd).mpr ⟨hkept, hnew, rfl⟩)
  cases hid : d.id with
  | none => exact absurd (.drawnIndexed hd hid hindexed) hkept
  | some id =>
    rw [offered, hid, Option.getD_some] at hindexed
    exact ⟨id, rfl, hindexed⟩

theorem not_commits_of_indexed (hd : ds[k]? = some d) {id : Bytes} (hid : d.id = some id)
    (hindexed : some id ∈ docs.map Document.id) (d' : Document) : ¬ Commits s docs ds k d' := by
  intro hcommits
  have hnew := ((commits_iff hd).mp hcommits).2.1
  rw [offered, hid, Option.getD_some] at hnew
  exact hnew hindexed

theorem getElem?_foldl_set_of_not_mem {i : Nat} {updates : List (Nat × Document)}
    (h : i ∉ updates.map Prod.fst) :
    (updates.foldl (fun ds (i, d) => ds.set i d) ds)[i]? = ds[i]? := by
  induction updates generalizing ds with
  | nil => rfl
  | cons p updates ih =>
    rw [List.map_cons, List.mem_cons, not_or] at h
    rw [List.foldl_cons, ih h.2, List.getElem?_set_ne fun heq => h.1 heq.symm]

/-- The one update of a place is what is found there. -/
theorem getElem?_foldl_set {i : Nat} {updates : List (Nat × Document)}
    (hdistinct : (updates.map Prod.fst).Nodup) (h : (i, d) ∈ updates) (hi : i < ds.length) :
    (updates.foldl (fun ds (i, d) => ds.set i d) ds)[i]? = some d := by
  induction updates generalizing ds with
  | nil => cases h
  | cons p updates ih =>
    rw [List.map_cons, List.nodup_cons] at hdistinct
    rw [List.foldl_cons]
    cases List.mem_cons.mp h with
    | inl h =>
      subst h
      rw [getElem?_foldl_set_of_not_mem hdistinct.1, List.getElem?_set_self hi]
    | inr h => exact ih hdistinct.2 h (by rwa [List.length_set])

namespace Resolution

/-- The places of the documents that are refused, in the order in which they were. -/
def listed (r : Resolution) : List Nat := r.failures.reverse.map Prod.fst

/-- The places of the documents to commit, in the order of the batch. -/
def places (r : Resolution) : List Nat := r.accepted.reverse.map Prod.fst

/-- All other places of a batch. -/
def passed (r : Resolution) (ds : List Document) : List Nat :=
  (List.range ds.length).filter fun i => i ∉ r.listed ∧ i ∉ r.places

variable {r : Resolution} {i : Nat}

theorem Accounts.mem_listed (h : r.Accounts s docs ds ds.length) :
    i ∈ r.listed ↔ Refused s docs ds i := by
  rw [listed, List.map_reverse, List.mem_reverse, h.refused]
  constructor
  · rintro (⟨d, hd, hinvalid⟩ | ⟨-, hrefused⟩)
    · exact .invalid hd hinvalid
    · exact hrefused
  · exact fun hrefused => .inr ⟨hrefused.lt, hrefused⟩

theorem Accounts.mem_places (h : r.Accounts s docs ds ds.length) :
    i ∈ r.places ↔ ∃ d', Commits s docs ds i d' := by
  rw [places, List.map_reverse, List.mem_reverse, List.mem_map]
  constructor
  · rintro ⟨p, hp, rfl⟩
    exact ⟨p.2, ((h.accepted p.1 p.2).mp hp).2⟩
  · rintro ⟨d', d, hd, hrest⟩
    have hlt := (List.getElem?_eq_some_iff.mp hd).1
    exact ⟨(i, d'), (h.accepted i d').mpr ⟨hlt, d, hd, hrest⟩, rfl⟩

theorem Accounts.ascending_places (h : r.Accounts s docs ds ds.length) :
    r.places.Pairwise (· < ·) := by
  rw [places, List.map_reverse, List.pairwise_reverse, List.pairwise_map]
  exact h.inOrder

theorem Accounts.nodup_places (h : r.Accounts s docs ds ds.length) : r.places.Nodup :=
  h.ascending_places.imp Nat.ne_of_lt

/-- Every document is listed, passed over or committed, and none of them is two of these. -/
theorem Accounts.parts (h : r.Accounts s docs ds ds.length) :
    (r.listed ++ r.passed ds ++ r.places).Perm (List.range ds.length) := by
  have hlisted : r.listed.Nodup := by
    rw [listed, List.map_reverse, List.nodup_reverse]
    exact h.once
  have hmem (i : Nat) : i ∈ r.passed ds ↔ i < ds.length ∧ i ∉ r.listed ∧ i ∉ r.places := by
    rw [passed, List.mem_filter, List.mem_range, decide_eq_true_iff]
  have hapart : ∀ i ∈ r.listed, i ∉ r.places := by
    intro i hlist hplace
    obtain ⟨d', d, -, hkept, -⟩ := h.mem_places.mp hplace
    exact hkept (h.mem_listed.mp hlist)
  have hnodup : (r.listed ++ r.passed ds ++ r.places).Nodup := by
    rw [List.nodup_append', List.nodup_append']
    refine ⟨⟨hlisted, List.nodup_range.filter _, ?_⟩, h.nodup_places, ?_⟩
    · intro i hlist hpass
      exact ((hmem i).mp hpass).2.1 hlist
    · intro i hfront hplace
      cases List.mem_append.mp hfront with
      | inl hlist => exact hapart i hlist hplace
      | inr hpass => exact ((hmem i).mp hpass).2.2 hplace
  rw [List.perm_ext_iff_of_nodup hnodup List.nodup_range]
  intro i
  rw [List.mem_append, List.mem_append, hmem, List.mem_range, h.mem_listed, h.mem_places]
  constructor
  · rintro ((hrefused | hpass) | ⟨d', d, hd, -⟩)
    · exact hrefused.lt
    · exact hpass.1
    · exact (List.getElem?_eq_some_iff.mp hd).1
  · intro hlt
    by_cases hrefused : Refused s docs ds i
    · exact .inl (.inl hrefused)
    · by_cases hcommits : ∃ d', Commits s docs ds i d'
      · exact .inr hcommits
      · exact .inl (.inr ⟨hlt, hrefused, hcommits⟩)

theorem Accounts.getElem?_written (h : r.Accounts s docs ds ds.length) (hp : (i, d) ∈ r.accepted) :
    (r.written ds)[i]? = some d := by
  obtain ⟨hlt, -⟩ := (h.accepted i d).mp hp
  exact getElem?_foldl_set h.nodup_places (List.mem_reverse.mpr hp) hlt

theorem getElem?_written_of_not_mem (hi : i ∉ r.places) : (r.written ds)[i]? = ds[i]? :=
  getElem?_foldl_set_of_not_mem hi

theorem Accounts.filterMap_places (h : r.Accounts s docs ds ds.length) :
    r.places.filterMap ((r.written ds)[·]?) = r.added := by
  rw [places, added, List.filterMap_map, ← List.filterMap_eq_map]
  apply List.filterMap_congr
  intro p hp
  exact h.getElem?_written (List.mem_reverse.mp hp)

/-- What stands at a place that was not refused is the document that was there, with the identifier that
was looked up. -/
theorem Accounts.written_of_kept (h : r.Accounts s docs ds ds.length) (hkept : ¬ Refused s docs ds i)
    (hd : (r.written ds)[i]? = some d) :
    ∃ e, ds[i]? = some e ∧ d = { e with id := some (offered s ds i e) } := by
  by_cases hplace : i ∈ r.places
  · obtain ⟨d', e, he, hcommits⟩ := h.mem_places.mp hplace
    have haccepted := (h.accepted i d').mpr ⟨(List.getElem?_eq_some_iff.mp he).1, e, he, hcommits⟩
    rw [h.getElem?_written haccepted, Option.some.injEq] at hd
    exact ⟨e, he, hd.symm.trans hcommits.2.2⟩
  · rw [getElem?_written_of_not_mem hplace] at hd
    obtain ⟨id, hid, -⟩ :=
      indexed_of_passed hd hkept fun d' hcommits => hplace (h.mem_places.mpr ⟨d', hcommits⟩)
    have hoffered : offered s ds i d = id := by rw [offered, hid, Option.getD_some]
    exact ⟨d, hd, by rw [hoffered, ← hid]⟩

/-- Its identifier is that of a document of the segment then. -/
theorem Accounts.identified (h : r.Accounts s docs ds ds.length) (hkept : ¬ Refused s docs ds i)
    (hd : (r.written ds)[i]? = some d) :
    ∃ id ∈ r.seen, d.id = some id ∧ some id ∈ (docs ++ r.added).map Document.id := by
  obtain ⟨e, he, hwritten⟩ := h.written_of_kept hkept hd
  have hid : d.id = some (offered s ds i e) := by rw [hwritten]
  have hseen : offered s ds i e ∈ r.seen :=
    (h.seen _).mpr ⟨i, (List.getElem?_eq_some_iff.mp he).1, resolves_of_kept he hkept⟩
  refine ⟨_, hseen, hid, ?_⟩
  rw [← hid, List.map_append, List.mem_append]
  by_cases hplace : i ∈ r.places
  · obtain ⟨d', hcommits⟩ := h.mem_places.mp hplace
    have haccepted := (h.accepted i d').mpr ⟨(List.getElem?_eq_some_iff.mp he).1, hcommits⟩
    rw [h.getElem?_written haccepted, Option.some.injEq] at hd
    rw [← hd]
    exact .inr (List.mem_map_of_mem (mem_added.mpr ⟨i, haccepted⟩))
  · rw [getElem?_written_of_not_mem hplace] at hd
    obtain ⟨id, hid', hindexed⟩ :=
      indexed_of_passed hd hkept fun d' hcommits => hplace (h.mem_places.mpr ⟨d', hcommits⟩)
    rw [hid']
    exact .inl hindexed

theorem Accounts.mem_passed (h : r.Accounts s docs ds ds.length) :
    i ∈ r.passed ds ↔ i ∉ r.listed ∧ ∃ d id, ds[i]? = some d ∧ d.id = some id ∧
      some id ∈ docs.map Document.id := by
  rw [passed, List.mem_filter, List.mem_range, decide_eq_true_iff]
  constructor
  · rintro ⟨hlt, hkept, hplace⟩
    have hd : ds[i]? = some ds[i] := List.getElem?_eq_getElem hlt
    rw [h.mem_places, not_exists] at hplace
    obtain ⟨id, hid, hindexed⟩ := indexed_of_passed hd (mt h.mem_listed.mpr hkept) hplace
    exact ⟨hkept, ds[i], id, hd, hid, hindexed⟩
  · rintro ⟨hkept, d, id, hd, hid, hindexed⟩
    refine ⟨(List.getElem?_eq_some_iff.mp hd).1, hkept, ?_⟩
    rw [h.mem_places, not_exists]
    exact not_commits_of_indexed hd hid hindexed

/-- The commits take numbers in the order of their places. -/
theorem Accounts.numbered (h : r.Accounts s docs ds ds.length) (hdocs : s.Represents docs)
    (hafter : r.committed.Represents (docs ++ r.added)) (hoffset : r.committed.offset = s.offset)
    {n : Nat} (hn : r.places[n]? = some i) :
    ∃ id d, id.toNat = s.watermark.toNat + n ∧ (r.written ds)[i]? = some d ∧
      r.committed.document? id = some d := by
  rw [places, List.getElem?_map] at hn
  obtain ⟨p, hp, rfl⟩ := Option.map_eq_some_iff.mp hn
  have hadded : r.added[n]? = some p.2 := by
    rw [added, List.getElem?_map, hp]
    rfl
  have hlt : docs.length + n < (docs ++ r.added).length := by
    have hlength := (List.getElem?_eq_some_iff.mp hadded).1
    rw [List.length_append]
    omega
  have hnumber := hafter.toNat_idAt hlt
  have hdocument := hafter.document?_idAt hlt
  rw [List.getElem?_append_right (Nat.le_add_right _ _), Nat.add_sub_cancel_left, hadded] at hdocument
  refine ⟨_, p.2, ?_, h.getElem?_written (List.mem_reverse.mp (List.mem_of_getElem? hp)), hdocument⟩
  rw [hnumber, hoffset, hdocs.watermark, Nat.add_assoc]

/-- What can be looked up in a segment is found in one with the same strategy that has it. -/
theorem Accounts.found (h : r.Accounts s docs ds ds.length)
    (hafter : r.committed.Represents (docs ++ r.added))
    (hwritable : r.committed.checkWritable = .ok ()) (hkept : ¬ Refused s docs ds i)
    (hd : (r.written ds)[i]? = some d) :
    ∃ id, d.id = some id ∧
      r.committed.query (·.containsTerm Document.idField id) = .ok true := by
  obtain ⟨id, hseen, hid, hmem⟩ := h.identified hkept hd
  obtain ⟨c, hc⟩ := h.answered id hseen
  have hstrategy : r.committed.dictionary.strategy = s.dictionary.strategy := by
    rw [committed, strategy_foldl_commit, h.segment]
    rfl
  obtain ⟨c', hc'⟩ := exists_containsIdentifier_eq_ok hstrategy hc
  have hopen : r.committed.checkOpen = .ok () := by
    rw [checkWritable] at hwritable
    rw [checkOpen]
    split at hwritable
    · cases hwritable
    · next hopen => rw [if_neg hopen]
  refine ⟨id, hid, ?_⟩
  rw [query, hopen]
  dsimp only
  rw [← (hafter.containsIdentifier_iff hc').mpr hmem]
  exact hc'

end Resolution

/-- What a batch that goes through makes of its documents, where the segment held `docs` before. The
places of the batch are those of the documents that are listed as failures, of those that are passed
over, and of those that are committed. -/
structure Accounting (s : Mutable) (docs : List Document) (b : Batch)
    (listed passed committed : List Nat) : Prop where
  result : ∃ failures : List (Nat × Error), failures.map Prod.fst = listed ∧
    (s.insertBatch b).result =
      if failures.isEmpty then .ok () else .error (.partialBatch failures)
  parts : (listed ++ passed ++ committed).Perm (List.range b.documents.length)
  listed_iff : ∀ i, i ∈ listed ↔ Refused s docs b.documents i
  passed_iff : ∀ i, i ∈ passed ↔ i ∉ listed ∧ ∃ d id, b.documents[i]? = some d ∧ d.id = some id ∧
    some id ∈ docs.map Document.id
  inOrder : committed.Pairwise (· < ·)
  numbered : ∀ n i, committed[n]? = some i → ∃ id d, id.toNat = s.watermark.toNat + n ∧
    (s.insertBatch b).batch.documents[i]? = some d ∧ (s.insertBatch b).segment.document? id = some d
  represents : (s.insertBatch b).segment.Represents
    (docs ++ committed.filterMap ((s.insertBatch b).batch.documents[·]?))
  found : ∀ i d, i ∉ listed → (s.insertBatch b).batch.documents[i]? = some d →
    ∃ id, d.id = some id ∧
      (s.insertBatch b).segment.query (·.containsTerm Document.idField id) = .ok true
  untouched : ∀ i, i ∉ committed → (s.insertBatch b).batch.documents[i]? = b.documents[i]?

/-- A batch that goes through has settled all its documents before it commits those that it accepted. -/
structure Completes (s : Mutable) (docs : List Document) (b : Batch) (r : Resolution) : Prop where
  accounts : r.Accounts s docs b.documents b.documents.length
  represents : r.committed.Represents (docs ++ r.added)
  offset : r.committed.offset = s.offset
  writable : r.committed.checkWritable = .ok ()
  segment : (s.insertBatch b).segment = r.committed
  documents : (s.insertBatch b).batch.documents = r.written b.documents
  result : (s.insertBatch b).result =
    if r.failures.isEmpty then .ok () else .error (.partialBatch r.failures.reverse)

theorem Represents.completes (hdocs : s.Represents docs) {b : Batch}
    (hdone : IsDone (s.insertBatch b).result) : ∃ r, Completes s docs b r := by
  obtain ⟨hw, r, hrun, hroom, hsegment, hdocuments, hresult⟩ := insertBatch_of_isDone hdone
  have h : r.Accounts s docs b.documents b.documents.length :=
    (Resolution.accounts_start s docs b).run hdocs rfl (Nat.zero_le _) hrun
  have hvalid : ∀ p ∈ Resolution.validFrom 0 b.documents, p.2.validate = .ok () :=
    fun p => validate_of_mem_validIn
  have hsound : r.Sound s := by
    have hrest := Resolution.sound_run b.isPartial (Resolution.sound_start s (invalidIn b).reverse)
      hvalid
    rwa [hrun] at hrest
  refine ⟨r, h, represents_commitAll hsound hdocs hroom, ?_, ?_, hsegment, hdocuments, hresult⟩
  · exact (offset_foldl_commit _ _).trans hsound.same.offset
  · apply Resolution.checkWritable_committed
    rw [h.segment]
    exact hw

theorem Represents.accounting (hdocs : s.Represents docs) {b : Batch}
    (hdone : IsDone (s.insertBatch b).result) :
    ∃ listed passed committed, Accounting s docs b listed passed committed := by
  obtain ⟨r, hcompletes⟩ := hdocs.completes hdone
  have h := hcompletes.accounts
  refine ⟨r.listed, r.passed b.documents, r.places, ?_⟩
  constructor
  · refine ⟨r.failures.reverse, rfl, ?_⟩
    rw [hcompletes.result, List.isEmpty_reverse]
  · exact h.parts
  · exact fun i => h.mem_listed
  · exact fun i => h.mem_passed
  · exact h.ascending_places
  · intro n i hn
    rw [hcompletes.segment, hcompletes.documents]
    exact h.numbered hdocs hcompletes.represents hcompletes.offset hn
  · rw [hcompletes.segment, hcompletes.documents, h.filterMap_places]
    exact hcompletes.represents
  · intro i d hi hd
    rw [hcompletes.documents] at hd
    rw [hcompletes.segment]
    exact h.found hcompletes.represents hcompletes.writable (mt h.mem_listed.mpr hi) hd
  · intro i hi
    rw [hcompletes.documents, Resolution.getElem?_written_of_not_mem hi]

end InvertedIndex.Segment.Mutable

namespace InvertedIndex.Segment.Session

open Mutable (IsDone Accounting)

/-- Every document of a batch that goes through, whole or in part, is accounted for: it is listed among
the failures, and this for one of the reasons there are, or it was given an identifier that was indexed
already, or it is committed. This holds after any operations and for any identifiers that are drawn. -/
theorem batch_accounts_for_documents (options : Options) (generator : Nat → Bytes) (ops : List Op)
    (b : Batch) (hdone : IsDone (((new options generator).run ops).segment.insertBatch b).result) :
    ∃ docs, ((new options generator).run ops).segment.committed = .ok docs ∧
      ((new options generator).run ops).segment.Represents docs ∧
      ∃ listed passed committed,
        Accounting ((new options generator).run ops).segment docs b listed passed committed := by
  obtain ⟨docs, hdocs⟩ := represents_run_new options generator ops
  exact ⟨docs, hdocs.committed_eq, hdocs, hdocs.accounting hdone⟩

/-- A document without fields and one that repeats a drawn identifier are listed, an indexed one is
passed over, and the one that the identifier was drawn for is committed. -/
theorem batch_accounts_for_documents_mixed :
    ∃ s docs listed passed committed,
      s = ((new ⟨0, 5, .exact⟩ fun _ => [103]).run [.insert (letter 97)]).segment ∧
      IsDone (s.insertBatch ⟨mixed, true⟩).result ∧
      Accounting s docs ⟨mixed, true⟩ listed passed committed ∧
      listed = [0, 2] ∧ 3 ∈ passed ∧ 1 ∈ committed := by
  have hdone : IsDone (((new ⟨0, 5, .exact⟩ fun _ => [103]).run
      [.insert (letter 97)]).segment.insertBatch ⟨mixed, true⟩).result := .inr ⟨_, rfl⟩
  obtain ⟨docs, hcommitted, -, listed, passed, committed, haccounts⟩ :=
    batch_accounts_for_documents ⟨0, 5, .exact⟩ (fun _ => [103]) [.insert (letter 97)]
      ⟨mixed, true⟩ hdone
  have hdocs : [letter 97] = docs := Except.ok.inj hcommitted
  have hlisted : listed = [0, 2] := by
    obtain ⟨failures, hfailures, hresult⟩ := haccounts.result
    have hindices : [0, 2] = failures.map Prod.fst := by
      split at hresult
      · cases hresult
      · cases hresult
        rfl
    rw [← hfailures, hindices]
  have hpassed : 3 ∈ passed := by
    refine (haccounts.passed_iff 3).mpr ⟨by simp [hlisted], letter 97, [97], rfl, rfl, ?_⟩
    rw [← hdocs]
    exact List.mem_cons_self
  have hnot : 1 ∉ passed := by
    intro hmem
    obtain ⟨-, d, id, hd, hid, -⟩ := (haccounts.passed_iff 1).mp hmem
    cases hd
    cases hid
  have hall := haccounts.parts.mem_iff.mpr (List.mem_range.mpr (show 1 < 4 by decide))
  simp only [List.mem_append, hlisted, hnot] at hall
  exact ⟨_, docs, listed, passed, committed, rfl, hdone, haccounts, hlisted, hpassed, by simpa using hall⟩

end InvertedIndex.Segment.Session
