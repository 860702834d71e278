import InvertedIndex.Proofs.Segment.Batches
import Mathlib.Data.Finset.Card

namespace InvertedIndex.Segment

namespace Mutable

/-- Nothing is different about the count of readers or about whether more can be opened. -/
structure SameReaders (s t : Mutable) : Prop where
  readers : t.readers = s.readers
  isClosed : t.isClosed = s.isClosed

variable {s : Mutable}

theorem sameReaders_foldl_commit (s : Mutable) (added : List Document) :
    SameReaders s (added.foldl commit s) := by
  induction added generalizing s with
  | nil => exact ⟨rfl, rfl⟩
  | cons d added ih =>
    obtain ⟨hreaders, hclosed⟩ := ih (s.commit d)
    exact ⟨hreaders, hclosed⟩

theorem sameReaders_insert (s : Mutable) (d : Document) : SameReaders s (s.insert d).segment := by
  cases hresult : (s.insert d).result with
  | error e =>
    obtain ⟨-, -, n, -, hsegment⟩ := insert_eq_error hresult
    rw [hsegment]
    exact ⟨rfl, rfl⟩
  | ok id =>
    rcases insert_cases s d with ⟨⟨e, he⟩, -⟩ | ⟨t, x, isDrawn, hidentify, -, -, -, heq⟩
    · rw [he] at hresult
      cases hresult
    · have hdrawn := identify_snd s d
      rw [hidentify] at hdrawn
      replace hdrawn : t = s.drawMore (draws d) := hdrawn
      rw [heq, hdrawn]
      exact ⟨rfl, rfl⟩

theorem isDone_or_refused (s : Mutable) (b : Batch) :
    IsDone (s.insertBatch b).result ∨
      ∃ e, (s.insertBatch b).result = .error e ∧ ∀ failures, e ≠ .partialBatch failures := by
  cases hresult : (s.insertBatch b).result with
  | ok u => exact .inl (.inl rfl)
  | error e =>
    by_cases hpartial : ∃ failures, e = .partialBatch failures
    · obtain ⟨failures, rfl⟩ := hpartial
      exact .inl (.inr ⟨failures, rfl⟩)
    · exact .inr ⟨e, rfl, fun failures h => hpartial ⟨failures, h⟩⟩

theorem sameReaders_insertBatch (s : Mutable) (b : Batch) :
    SameReaders s (s.insertBatch b).segment := by
  rcases isDone_or_refused s b with hdone | ⟨e, he, hpartial⟩
  · obtain ⟨-, r, hrun, -, hsegment, -⟩ := insertBatch_of_isDone hdone
    obtain ⟨n, -, hdrawn⟩ := Resolution.run_segment ⟨s, [], [], (invalidIn b).reverse⟩ b.isPartial
      (Resolution.validFrom 0 b.documents)
    rw [hrun] at hdrawn
    replace hdrawn : r.segment = s.drawMore n := hdrawn
    rw [hsegment, Resolution.committed, hdrawn]
    obtain ⟨hreaders, hclosed⟩ := sameReaders_foldl_commit (s.drawMore n) r.added
    exact ⟨hreaders, hclosed⟩
  · obtain ⟨-, -, n, -, hsegment⟩ := insertBatch_eq_error he hpartial
    rw [hsegment]
    exact ⟨rfl, rfl⟩

end Mutable

namespace Reader

variable {r : Reader}

end Reader

namespace Session

/-- What a caller knows who keeps book of the operations. -/
structure Ledger where
  /-- The segment was closed. -/
  isClosed : Bool
  /-- So many readers were opened. Their places are the numbers below. -/
  opened : Nat
  /-- The readers that were neither closed nor dropped since. -/
  held : Finset Nat

namespace Ledger

def note (l : Ledger) : Op → Ledger
  | .close => { l with isClosed := true }
  | .openReader =>
    if l.isClosed then l else { l with opened := l.opened + 1, held := insert l.opened l.held }
  | .closeReader i | .dropReader i => { l with held := l.held.erase i }
  | _ => l

end Ledger

/-- The ledger is right about a session. -/
structure Tallies (s : Session) (l : Ledger) : Prop where
  isClosed : s.segment.isClosed = l.isClosed
  opened : s.readers.length = l.opened
  held : ∀ i, i ∈ l.held ↔ ∃ r, s.readers[i]? = some r ∧ r.isClosed = false
  count : s.segment.readers = l.held.card

variable {s : Session} {l : Ledger} {i : Nat}

namespace Tallies

theorem of_sameReaders (h : Tallies s l) {t : Session} (hreaders : t.readers = s.readers)
    (hsame : Mutable.SameReaders s.segment t.segment) : Tallies t l where
  isClosed := by rw [hsame.isClosed, h.isClosed]
  opened := by rw [hreaders, h.opened]
  held i := by rw [hreaders, h.held]
  count := by rw [hsame.readers, h.count]

theorem lt_opened (h : Tallies s l) (hi : i ∈ l.held) : i < l.opened := by
  obtain ⟨r, hr, -⟩ := (h.held i).mp hi
  rw [← h.opened]
  exact (List.getElem?_eq_some_iff.mp hr).1

/-- A reader can be opened as long as the segment is open. -/
theorem openReader_eq (h : Tallies s l) (hopen : l.isClosed = false) :
    s.openReader = .ok ⟨{ s.segment with readers := s.segment.readers + 1 },
      s.readers ++ [⟨s.segment.watermark, false⟩]⟩ := by
  rw [openReader, Mutable.checkOpen, h.isClosed, hopen]
  rfl

theorem openReader_eq_error (h : Tallies s l) (hclosed : l.isClosed = true) :
    s.openReader = .error (.closed Mutable.name) := by
  rw [openReader, Mutable.checkOpen, h.isClosed, hclosed]
  rfl

theorem openReader (h : Tallies s l) : Tallies (s.apply .openReader) (l.note .openReader) := by
  cases hclosed : l.isClosed with
  | true =>
    rw [apply, h.openReader_eq_error hclosed, Ledger.note, if_pos hclosed]
    exact h
  | false =>
    rw [apply, h.openReader_eq hclosed, Ledger.note, hclosed, if_neg Bool.false_ne_true]
    have hnew : l.opened ∉ l.held := fun hmem => Nat.lt_irrefl _ (h.lt_opened hmem)
    constructor
    · exact h.isClosed.trans hclosed
    · simp only [Except.toOption, Option.getD_some, List.length_append, List.length_singleton, h.opened]
    · intro i
      simp only [Except.toOption, Option.getD_some, Finset.mem_insert, h.held, List.getElem?_append,
        h.opened]
      split
      · next hlt => exact or_iff_right (Nat.ne_of_lt hlt)
      · next hge =>
        have hnone : s.readers[i]? = none := by
          rw [List.getElem?_eq_none_iff, h.opened]
          exact Nat.le_of_not_lt hge
        rw [hnone, List.getElem?_singleton]
        split
        · next hzero =>
          have hi : i = l.opened := by omega
          simp [hi]
        · next hpos =>
          have hi : i ≠ l.opened := by omega
          simp [hi]
    · simp only [Except.toOption, Option.getD_some, Finset.card_insert_of_notMem hnew, h.count]

theorem closeReader_eq (h : Tallies s l) (hi : i ∈ l.held) : s.closeReader i = .ok (s.release i) := by
  obtain ⟨r, hr, hopen⟩ := (h.held i).mp hi
  simp only [closeReader, hr, Reader.checkOpen, hopen]
  rfl

/-- A reader that is not held any more cannot be closed. -/
theorem closeReader_eq_error (h : Tallies s l) (hi : i ∉ l.held) :
    s.closeReader i = .error (.closed Reader.name) := by
  rw [h.held] at hi
  unfold closeReader
  split
  · rfl
  · next r hr =>
    have hclosed : r.isClosed = true := by
      by_contra hopen
      exact hi ⟨r, hr, eq_false_of_ne_true hopen⟩
    rw [Reader.checkOpen, hclosed]
    rfl

/-- There is something to take from the count whenever it is lowered. -/
theorem readers_release (h : Tallies s l) (hi : i ∈ l.held) :
    (s.release i).segment.readers + 1 = s.segment.readers := by
  have hpos : 0 < l.held.card := Finset.card_pos.mpr ⟨i, hi⟩
  rw [← h.count] at hpos
  exact Nat.sub_add_cancel hpos

theorem release (h : Tallies s l) (hi : i ∈ l.held) :
    Tallies (s.release i) { l with held := l.held.erase i } where
  isClosed := h.isClosed
  opened := by
    rw [← h.opened]
    exact List.length_modify ..
  held j := by
    simp only [Session.release, Finset.mem_erase, h.held, List.getElem?_modify]
    cases s.readers[j]? with
    | none => simp
    | some r =>
      by_cases hij : i = j
      · simp [hij]
      · simp [hij, Ne.symm hij]
  count := by
    have hreaders := h.readers_release hi
    rw [Finset.card_erase_of_mem hi, ← h.count]
    omega

theorem closeReader (h : Tallies s l) (i : Nat) :
    Tallies ((s.closeReader i).toOption.getD s) { l with held := l.held.erase i } := by
  by_cases hi : i ∈ l.held
  · rw [h.closeReader_eq hi]
    exact h.release hi
  · rw [h.closeReader_eq_error hi, Finset.erase_eq_of_notMem hi]
    exact h

theorem apply (h : Tallies s l) (op : Op) : Tallies (s.apply op) (l.note op) := by
  cases op with
  | insert d => exact h.of_sameReaders rfl (Mutable.sameReaders_insert s.segment d)
  | insertBatch b => exact h.of_sameReaders rfl (Mutable.sameReaders_insertBatch s.segment b)
  | tombstone id =>
    refine h.of_sameReaders rfl ?_
    rw [Session.apply, Mutable.tombstone]
    cases s.segment.checkWritable <;> exact ⟨rfl, rfl⟩
  | sealSegment =>
    refine h.of_sameReaders rfl ?_
    rw [Session.apply, Mutable.sealSegment]
    cases s.segment.checkWritable <;> exact ⟨rfl, rfl⟩
  | close =>
    rw [Session.apply, Mutable.close, Mutable.checkOpen]
    cases hclosed : s.segment.isClosed with
    | true => exact ⟨hclosed, h.opened, h.held, h.count⟩
    | false => exact ⟨rfl, h.opened, h.held, h.count⟩
  | openReader => exact h.openReader
  | closeReader i => exact h.closeReader i
  | dropReader i =>
    rw [Session.apply, dropReader_eq]
    exact h.closeReader i

/-- Who keeps book of the operations knows the readers at any time. -/
theorem run (h : Tallies s l) (ops : List Op) : Tallies (s.run ops) (ops.foldl Ledger.note l) := by
  induction ops generalizing s l with
  | nil => exact h
  | cons op ops ih => exact ih (h.apply op)

end Tallies

namespace Tallies

end Tallies

/-- One of two readers is closed twice and then dropped, and a third one is refused. -/
example : ((new ⟨0, 5, .exact⟩ fun _ => []).run [.openReader, .openReader, .close, .openReader,
    .closeReader 0, .closeReader 0, .dropReader 0]).segment.readers = 1 := rfl

end Session

end InvertedIndex.Segment
