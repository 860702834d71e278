import InvertedIndex.Proofs.Segment.Build

namespace InvertedIndex.Segment

namespace Mutable

def isFrozen (s : Mutable) : Bool := s.isSealed || s.isClosed

/-- The segment after it was closed, if `closed`, and with so many readers. -/
def marked (s : Mutable) (closed : Bool) (readers : Nat) : Mutable :=
  { s with isClosed := s.isClosed || closed, readers }

variable {s : Mutable}

theorem marked_self (s : Mutable) : s.marked false s.readers = s := by
  rw [marked, Bool.or_false]

theorem marked_marked (s : Mutable) (c c' : Bool) (n n' : Nat) :
    (s.marked c n).marked c' n' = s.marked (c || c') n' := by
  simp only [marked, Bool.or_assoc]

theorem isFrozen_marked (h : s.isFrozen = true) (c : Bool) (n : Nat) :
    (s.marked c n).isFrozen = true := by
  have hor : (s.marked c n).isFrozen = (s.isFrozen || c) := (Bool.or_assoc ..).symm
  rw [hor, h, Bool.true_or]

/-- A frozen segment refuses every write. -/
theorem checkWritable_of_isFrozen (h : s.isFrozen = true) : ∃ e, s.checkWritable = .error e := by
  rw [isFrozen, Bool.or_eq_true] at h
  unfold checkWritable
  split
  · exact ⟨_, rfl⟩
  · next hopen =>
    rw [if_pos (h.resolve_right hopen)]
    exact ⟨_, rfl⟩

theorem isSealed_of_sealSegment {t : Mutable} (h : s.sealSegment = .ok t) : t.isSealed = true := by
  obtain ⟨u, -, rfl⟩ := Results.map_eq_ok h
  rfl

theorem isClosed_of_close {t : Mutable} (h : s.close = .ok t) : t.isClosed = true := by
  obtain ⟨u, -, rfl⟩ := Results.map_eq_ok h
  rfl

end Mutable

namespace Build

variable {s : Mutable}

theorem documents_of_isFrozen (h : s.isFrozen = true) :
    (Source.fromMutable s).documents = s.committed := by
  rw [Source.documents, ← Bool.not_or, ← Mutable.isFrozen, h]
  rfl

/-- A merge sees nothing of a source but its documents and its tombstones. -/
theorem mergeFrom_congr {source source' : Source} (hdocuments : source.documents = source'.documents)
    (htombstones : source.tombstones = source'.tombstones) (m : Merged) (front back : List Source) :
    mergeFrom m (front ++ source :: back) = mergeFrom m (front ++ source' :: back) := by
  induction front generalizing m with
  | nil =>
    rw [List.nil_append, List.nil_append, mergeFrom, mergeFrom, mergeSource, mergeSource, hdocuments,
      htombstones]
  | cons x front ih =>
    rw [List.cons_append, List.cons_append, mergeFrom, mergeFrom]
    cases mergeSource m x with
    | error e => rfl
    | ok m => exact ih m

/-- Sources that hand out the same documents and tombstones stand for each other. -/
theorem build_congr {source source' : Source} (hdocuments : source.documents = source'.documents)
    (htombstones : source.tombstones = source'.tombstones) (format : KeyFormat) (base : PostingsId)
    (front back : List Source) :
    merge (front ++ source :: back) = merge (front ++ source' :: back) ∧
      build format base (front ++ source :: back) = build format base (front ++ source' :: back) := by
  have hmerge : merge (front ++ source :: back) = merge (front ++ source' :: back) := by
    rw [merge, merge, mergeFrom_congr hdocuments htombstones]
  refine ⟨hmerge, ?_⟩
  rw [build, build, hmerge]

end Build

namespace Session

open Mutable (isFrozen)

variable {s : Session}

theorem marked_closeReader (s : Session) (i : Nat) :
    ∃ n, ((s.closeReader i).toOption.getD s).segment = s.segment.marked false n := by
  unfold closeReader
  split
  · exact ⟨_, (Mutable.marked_self _).symm⟩
  · next r _ =>
    cases r.checkOpen with
    | error e => exact ⟨_, (Mutable.marked_self _).symm⟩
    | ok u =>
      refine ⟨s.segment.readers - 1, ?_⟩
      rw [Mutable.marked, Bool.or_false]
      rfl

/-- No operation does more to a frozen segment than to close it and to count its readers. -/
theorem marked_apply (h : s.segment.isFrozen = true) (op : Op) :
    ∃ c n, (s.apply op).segment = s.segment.marked c n := by
  have hsame : ∃ c n, s.segment = s.segment.marked c n :=
    ⟨false, _, (Mutable.marked_self _).symm⟩
  -- Every way of writing begins with this check, so none of them gets any further.
  obtain ⟨e, he⟩ := Mutable.checkWritable_of_isFrozen h
  cases op with
  | insert d =>
    rw [apply, Mutable.insert, he]
    exact hsame
  | insertBatch b =>
    rw [apply, Mutable.insertBatch, he]
    exact hsame
  | tombstone id =>
    rw [apply, Mutable.tombstone, he]
    exact hsame
  | sealSegment =>
    rw [apply, Mutable.sealSegment, he]
    exact hsame
  | close =>
    rw [apply, Mutable.close]
    cases s.segment.checkOpen with
    | error e => exact hsame
    | ok u =>
      refine ⟨true, s.segment.readers, ?_⟩
      rw [Mutable.marked, Bool.or_true]
      rfl
  | openReader =>
    rw [apply, openReader]
    cases s.segment.checkOpen with
    | error e => exact hsame
    | ok u =>
      refine ⟨false, s.segment.readers + 1, ?_⟩
      rw [Mutable.marked, Bool.or_false]
      rfl
  | closeReader i =>
    obtain ⟨n, hn⟩ := marked_closeReader s i
    exact ⟨false, n, hn⟩
  | dropReader i =>
    obtain ⟨n, hn⟩ := marked_closeReader s i
    rw [apply, dropReader_eq]
    exact ⟨false, n, hn⟩

/-- All that operations on a frozen segment do is to close it and to count its readers. -/
theorem marked_run (h : s.segment.isFrozen = true) (ops : List Op) :
    ∃ c n, (s.run ops).segment = s.segment.marked c n := by
  induction ops generalizing s with
  | nil => exact ⟨false, _, (Mutable.marked_self _).symm⟩
  | cons op ops ih =>
    obtain ⟨c, n, hop⟩ := marked_apply h op
    obtain ⟨c', n', hops⟩ := ih (s := s.apply op) (hop ▸ Mutable.isFrozen_marked h c n)
    rw [hop, Mutable.marked_marked] at hops
    exact ⟨_, _, hops⟩

/-- The operation seals or closes the segment, and is not refused. -/
def Freezes (s : Session) : Op → Prop
  | .sealSegment => ∃ t, s.segment.sealSegment = .ok t
  | .close => ∃ t, s.segment.close = .ok t
  | _ => False

/-- An operation that freezes a segment sets its mark. -/
theorem isFrozen_of_freezes {op : Op} (h : s.Freezes op) :
    (op = .sealSegment → (s.apply op).segment.isSealed = true) ∧
      (op = .close → (s.apply op).segment.isClosed = true) ∧
      (s.apply op).segment.isFrozen = true := by
  cases op with
  | sealSegment =>
    obtain ⟨t, ht⟩ := h
    have hsealed := Mutable.isSealed_of_sealSegment ht
    have hsegment : (s.apply .sealSegment).segment = t := by rw [apply, ht]; rfl
    rw [hsegment]
    exact ⟨fun _ => hsealed, (fun hop => by cases hop), by rw [isFrozen, hsealed, Bool.true_or]⟩
  | close =>
    obtain ⟨t, ht⟩ := h
    have hclosed := Mutable.isClosed_of_close ht
    have hsegment : (s.apply .close).segment = t := by rw [apply, ht]; rfl
    rw [hsegment]
    exact ⟨(fun hop => by cases hop), fun _ => hclosed, by rw [isFrozen, hclosed, Bool.or_true]⟩
  | _ => exact h.elim

/-- What a frozen session has in common with all that it can become. -/
structure Keeps (s t : Session) : Prop where
  offset : t.segment.offset = s.segment.offset
  watermark : t.segment.watermark = s.segment.watermark
  tombstones : t.segment.tombstones = s.segment.tombstones
  isSealed : s.segment.isSealed = true → t.segment.isSealed = true
  isClosed : s.segment.isClosed = true → t.segment.isClosed = true
  document? (id : PostingsId) : t.segment.document? id = s.segment.document? id
  committed : t.segment.committed = s.segment.committed
  /-- Readers that are still open are what they were. -/
  reader (i : Nat) (r : Reader) : i < s.readers.length → t.readers[i]? = some r →
    r.isClosed = false → s.readers[i]? = some r
  query {α : Type} (r : Reader) (f : Dictionary → Except Error α) :
    r.query t.segment f = r.query s.segment f
  read (a : Dictionary.Answer) : t.segment.dictionary.read a = s.segment.dictionary.read a
  matchAll (r : Reader) : r.matchAll t.segment = r.matchAll s.segment
  documents (r : Reader) (p : Postings) : r.documents t.segment p = r.documents s.segment p
  allDocuments (r : Reader) : r.allDocuments t.segment = r.allDocuments s.segment

theorem keeps_run (h : s.segment.isFrozen = true) (ops : List Op) : s.Keeps (s.run ops) := by
  obtain ⟨c, n, hsegment⟩ := marked_run h ops
  constructor
  case reader => exact fun i r => reader_run
  all_goals rw [hsegment]
  case isClosed => exact fun hclosed => by rw [Mutable.marked, hclosed, Bool.true_or]
  -- What is left does not depend on the mark or on the number of readers.
  all_goals first | exact id | intros; rfl

theorem isFrozen_run (h : s.segment.isFrozen = true) (ops : List Op) :
    (s.run ops).segment.isFrozen = true := by
  obtain ⟨c, n, hsegment⟩ := marked_run h ops
  rw [hsegment]
  exact Mutable.isFrozen_marked h c n

/-- What is built from a frozen segment does not depend on when that is done. -/
theorem build_run (h : s.segment.isFrozen = true) (ops : List Op) (format : KeyFormat) (base : PostingsId)
    (front back : List Source) :
    Build.merge (front ++ .fromMutable (s.run ops).segment :: back) =
        Build.merge (front ++ .fromMutable s.segment :: back) ∧
      Build.build format base (front ++ .fromMutable (s.run ops).segment :: back) =
        Build.build format base (front ++ .fromMutable s.segment :: back) := by
  have hkeeps := keeps_run h ops
  apply Build.build_congr
  · rw [Build.documents_of_isFrozen h, Build.documents_of_isFrozen (isFrozen_run h ops),
      hkeeps.committed]
  · exact hkeeps.tombstones

open Build (merge build write)

/-- Sealing and closing freeze a segment, from the first of them that is not refused. Whatever is done
later, the segment takes in nothing, what is read from it stays the same, and so does what is built from
it, alone or among other sources. -/
theorem frozen_for_good {options : Options} {generator : Nat → Bytes} {before : List Op} {mark : Op}
    (hmark : ((new options generator).run before).Freezes mark) :
    (mark = .sealSegment →
      ((new options generator).run (before ++ [mark])).segment.isSealed = true) ∧
    (mark = .close → ((new options generator).run (before ++ [mark])).segment.isClosed = true) ∧
    (∀ later more, ((new options generator).run (before ++ mark :: later)).Keeps
      ((new options generator).run (before ++ mark :: later ++ more))) ∧
    (∃ docs, ∀ later,
      ((new options generator).run (before ++ mark :: later)).segment.committed = .ok docs ∧
      (Source.fromMutable ((new options generator).run (before ++ mark :: later)).segment).documents =
        .ok docs) ∧
    (∀ format base front back later,
      build format base (front ++
          .fromMutable ((new options generator).run (before ++ mark :: later)).segment :: back) =
        build format base (front ++
          .fromMutable ((new options generator).run (before ++ [mark])).segment :: back)) ∧
    ∀ format front back, (∀ source ∈ front ++ back, source.Made format) → ∃ ds, ∀ later,
      merge (front ++
          .fromMutable ((new options generator).run (before ++ mark :: later)).segment :: back) =
        .ok ds ∧
      ∀ base : PostingsId, base.toNat + ds.length ≤ PostingsId.last.toNat →
        build format base (front ++
            .fromMutable ((new options generator).run (before ++ mark :: later)).segment :: back) =
          .ok (write format base ds) := by
  obtain ⟨hsealed, hclosed, hfrozen⟩ := isFrozen_of_freezes hmark
  have hfirst : (new options generator).run (before ++ [mark]) =
      ((new options generator).run before).apply mark := run_append ..
  rw [← hfirst] at hsealed hclosed hfrozen
  have hlater (later : List Op) : (new options generator).run (before ++ mark :: later) =
      ((new options generator).run (before ++ [mark])).run later := by
    rw [← run_append, List.append_assoc, List.singleton_append]
  refine ⟨hsealed, hclosed, ?_, ?_, fun format base front back later => ?_, ?_⟩
  · intro later more
    rw [run_append _ (before ++ mark :: later), hlater]
    exact keeps_run (isFrozen_run hfrozen later) more
  · obtain ⟨docs, hdocs⟩ := represents_run_new options generator (before ++ [mark])
    refine ⟨docs, fun later => ?_⟩
    rw [hlater, Build.documents_of_isFrozen (isFrozen_run hfrozen later),
      (keeps_run hfrozen later).committed]
    exact ⟨hdocs.committed_eq, hdocs.committed_eq⟩
  · rw [hlater]
    exact (build_run hfrozen later format base front back).2
  · intro format front back hmade
    have hhands : ∀ source ∈ front ++
        .fromMutable ((new options generator).run (before ++ [mark])).segment :: back,
        Build.Hands source := by
      intro source hsource
      rw [List.mem_append, List.mem_cons] at hsource
      obtain hin | rfl | hin := hsource
      · exact Build.hands_of_made (hmade source (List.mem_append_left _ hin))
      · exact Build.hands_of_made (.fromMutable options generator _ hfrozen : Source.Made format _)
      · exact Build.hands_of_made (hmade source (List.mem_append_right _ hin))
    obtain ⟨ds, hds, -⟩ := Build.merge_eq_ok hhands
    refine ⟨ds, fun later => ⟨?_, fun base hroom => ?_⟩⟩
    · rw [hlater, (build_run hfrozen later format 0 front back).1, hds]
    · rw [hlater, (build_run hfrozen later format base front back).2, Build.build_eq_ok hds hroom]

/-- A segment with two documents and a tombstone for the first is sealed while it has a reader; all that
is tried later is refused, but for closing it and its reader. -/
theorem frozen_for_good_letters :
    ∃ s t : Session,
      s = (new ⟨0, 5, .exact⟩ fun _ => []).run [.insert (letter 97), .insert (letter 98),
        .tombstone [97], .openReader, .sealSegment] ∧
      t = (new ⟨0, 5, .exact⟩ fun _ => []).run [.insert (letter 97), .insert (letter 98),
        .tombstone [97], .openReader, .sealSegment, .insert (letter 99),
        .insertBatch ⟨[letter 99], true⟩, .tombstone [98], .close, .openReader, .dropReader 0] ∧
      s.Keeps t ∧ t.segment.watermark = 7 ∧ t.segment.tombstones = [[97]] ∧
      (s.segment.isSealed, s.segment.isClosed, s.segment.readers) = (true, false, 1) ∧
      (t.segment.isSealed, t.segment.isClosed, t.segment.readers) = (true, true, 0) ∧
      build .listed 7 [.fromMutable s.segment] = .ok (write .listed 7 [letter 98]) ∧
      build .listed 7 [.fromMutable t.segment] = .ok (write .listed 7 [letter 98]) := by
  have hmark : ((new ⟨0, 5, .exact⟩ fun _ => []).run [.insert (letter 97), .insert (letter 98),
      .tombstone [97], .openReader]).Freezes .sealSegment := ⟨_, rfl⟩
  obtain ⟨-, -, hkeeps, -, -, hbuild⟩ := frozen_for_good hmark
  obtain ⟨ds, hds⟩ := hbuild .listed [] [] (by simp)
  have hletter : ds = [letter 98] := Except.ok.inj ((hds []).1.symm.trans rfl)
  subst hletter
  refine ⟨_, _, rfl, rfl, hkeeps [] [.insert (letter 99), .insertBatch ⟨[letter 99], true⟩,
    .tombstone [98], .close, .openReader, .dropReader 0], rfl, rfl, rfl, rfl, ?_, ?_⟩
  · exact (hds []).2 7 (by decide)
  · exact (hds [.insert (letter 99), .insertBatch ⟨[letter 99], true⟩, .tombstone [98], .close,
      .openReader, .dropReader 0]).2 7 (by decide)

end Session

end InvertedIndex.Segment
