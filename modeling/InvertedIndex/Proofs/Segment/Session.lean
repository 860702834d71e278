import InvertedIndex.Proofs.Segment.Reading
import InvertedIndex.Proofs.Segment.Writing

namespace InvertedIndex.Segment.Session

open Mutable (idAt idsBetween hasTerm hasField hasMatch SameDocuments Grows)

/-- What a caller can do that changes something. Queries leave a session as it is, so they are asked
between operations. -/
inductive Op where
  | insert (d : Document)
  | insertBatch (b : Batch)
  | tombstone (id : Bytes)
  | sealSegment
  | close
  | openReader
  | closeReader (i : Nat)
  | dropReader (i : Nat)

/-- An operation that fails leaves behind what it had done until then. -/
def apply (s : Session) : Op → Session
  | .insert d => { s with segment := (s.segment.insert d).segment }
  | .insertBatch b => { s with segment := (s.segment.insertBatch b).segment }
  | .tombstone id => { s with segment := (s.segment.tombstone id).toOption.getD s.segment }
  | .sealSegment => { s with segment := s.segment.sealSegment.toOption.getD s.segment }
  | .close => { s with segment := s.segment.close.toOption.getD s.segment }
  | .openReader => s.openReader.toOption.getD s
  | .closeReader i => (s.closeReader i).toOption.getD s
  | .dropReader i => s.dropReader i

def run (s : Session) (ops : List Op) : Session := ops.foldl apply s

/-- Sealing leaves no segment that can still be written to. -/
theorem isSealed_or_isClosed_sealSegment (s : Session) :
    ((s.apply .sealSegment).segment.isSealed || (s.apply .sealSegment).segment.isClosed) = true := by
  rw [apply, Mutable.sealSegment, Mutable.checkWritable]
  dsimp only
  split
  · next h => simp [Except.map, Except.toOption, h]
  · split
    · next h => simp [Except.map, Except.toOption, h]
    · rfl

theorem run_append (s : Session) (ops later : List Op) :
    s.run (ops ++ later) = (s.run ops).run later := List.foldl_append

/-- An operation that only marks something, if it succeeds. -/
theorem same_getD_map {s s' : Mutable} (hs : SameDocuments s s') (check : Except Error Unit) :
    SameDocuments s ((check.map fun () => s').toOption.getD s) := by
  cases check with
  | error e => exact .refl s
  | ok u => exact hs

theorem same_closeReader (s : Session) (i : Nat) :
    SameDocuments s.segment ((s.closeReader i).toOption.getD s).segment := by
  unfold closeReader
  split
  · exact .refl _
  · next r hr =>
    cases r.checkOpen with
    | error e => exact .refl _
    | ok u => exact ⟨rfl, rfl, rfl, rfl⟩

theorem dropReader_eq (s : Session) (i : Nat) :
    s.dropReader i = (s.closeReader i).toOption.getD s := by
  unfold dropReader
  cases s.closeReader i <;> rfl

/-- Only insertions change something about the documents. -/
theorem same_apply (s : Session) {op : Op} (hone : ∀ d, op ≠ .insert d)
    (hbatch : ∀ b, op ≠ .insertBatch b) : SameDocuments s.segment (s.apply op).segment := by
  cases op with
  | insert d => exact absurd rfl (hone d)
  | insertBatch b => exact absurd rfl (hbatch b)
  | tombstone id =>
    apply same_getD_map
    exact ⟨rfl, rfl, rfl, rfl⟩
  | sealSegment =>
    apply same_getD_map
    exact ⟨rfl, rfl, rfl, rfl⟩
  | close =>
    apply same_getD_map
    exact ⟨rfl, rfl, rfl, rfl⟩
  | openReader =>
    simp only [apply, openReader]
    cases s.segment.checkOpen with
    | error e => exact .refl _
    | ok u => exact ⟨rfl, rfl, rfl, rfl⟩
  | closeReader i => exact same_closeReader s i
  | dropReader i =>
    have hclose := same_closeReader s i
    rwa [← dropReader_eq] at hclose

theorem grows_apply (s : Session) (op : Op) : Grows s.segment (s.apply op).segment := by
  cases op with
  | insert d => exact Mutable.grows_insert s.segment d
  | insertBatch b => exact Mutable.grows_insertBatch s.segment b
  | _ => exact .of_same (same_apply s (by simp) (by simp))

/-- Whatever is done, documents that were committed stay where they are. -/
theorem grows_run (s : Session) (ops : List Op) : Grows s.segment (s.run ops).segment := by
  induction ops generalizing s with
  | nil => exact .refl _
  | cons op ops ih => exact (grows_apply s op).trans (ih (s.apply op))

/-- Whatever was done, there is a list of documents that the segment holds. -/
theorem represents_run_new (options : Options) (generator : Nat → Bytes) (ops : List Op) :
    ∃ docs, ((new options generator).run ops).segment.Represents docs := by
  have hgrows := grows_run (new options generator) ops
  obtain ⟨docs, hdocs⟩ := hgrows.documents [] (Mutable.represents_new options generator)
  exact ⟨docs, hdocs⟩

theorem offset_run_new (options : Options) (generator : Nat → Bytes) (ops : List Op) :
    ((new options generator).run ops).segment.offset = options.offset :=
  (grows_run (new options generator) ops).offset

theorem strategy_run_new (options : Options) (generator : Nat → Bytes) (ops : List Op) :
    ((new options generator).run ops).segment.dictionary.strategy = options.strategy := by
  have hstrategy := (grows_run (new options generator) ops).strategy
  rw [hstrategy]
  simp only [new, Mutable.new]
  cases options.strategy <;> rfl

section

variable {s : Session} {r : Reader} {i : Nat}

theorem length_readers_closeReader (s : Session) (i : Nat) :
    ((s.closeReader i).toOption.getD s).readers.length = s.readers.length := by
  unfold closeReader
  split
  · rfl
  · next r hr =>
    cases r.checkOpen with
    | error e => rfl
    | ok u => exact List.length_modify ..

theorem reader_closeReader (j : Nat)
    (h : ((s.closeReader j).toOption.getD s).readers[i]? = some r) (hopen : r.isClosed = false) :
    s.readers[i]? = some r := by
  unfold closeReader at h
  split at h
  · exact h
  · next q hq =>
    cases hcheck : q.checkOpen with
    | error e =>
      rw [hcheck] at h
      exact h
    | ok u =>
      rw [hcheck] at h
      have hmodify : (s.readers.modify j fun r => { r with isClosed := true })[i]? = some r := h
      rw [List.getElem?_modify] at hmodify
      obtain ⟨x, hx, hxr⟩ := Option.map_eq_some_iff.mp hmodify
      by_cases hji : j = i
      · rw [if_pos hji] at hxr
        rw [← hxr] at hopen
        cases hopen
      · rw [if_neg hji] at hxr
        rw [hx, ← hxr]

theorem length_readers_apply (s : Session) (op : Op) :
    s.readers.length ≤ (s.apply op).readers.length := by
  cases op with
  | openReader =>
    simp only [apply, openReader]
    cases s.segment.checkOpen with
    | error e => exact Nat.le_refl _
    | ok u => simp [Except.map, Except.toOption]
  | closeReader j => exact Nat.le_of_eq (length_readers_closeReader s j).symm
  | dropReader j =>
    have hlength := length_readers_closeReader s j
    rw [← dropReader_eq] at hlength
    exact Nat.le_of_eq hlength.symm
  | _ => exact Nat.le_refl _

/-- A reader that is open after an operation was the same before. -/
theorem reader_apply {op : Op} (hi : i < s.readers.length) (h : (s.apply op).readers[i]? = some r)
    (hopen : r.isClosed = false) : s.readers[i]? = some r := by
  cases op with
  | openReader =>
    simp only [apply, openReader] at h
    cases hcheck : s.segment.checkOpen with
    | error e =>
      rw [hcheck] at h
      exact h
    | ok u =>
      rw [hcheck] at h
      have happend : (s.readers ++ [⟨s.segment.watermark, false⟩])[i]? = some r := h
      rwa [List.getElem?_append_left hi] at happend
  | closeReader j => exact reader_closeReader j h hopen
  | dropReader j =>
    rw [apply, dropReader_eq] at h
    exact reader_closeReader j h hopen
  | _ => exact h

/-- A reader that is open in the end has been the same all along. -/
theorem reader_run {ops : List Op} (hi : i < s.readers.length)
    (h : (s.run ops).readers[i]? = some r) (hopen : r.isClosed = false) :
    s.readers[i]? = some r := by
  induction ops generalizing s with
  | nil => exact h
  | cons op ops ih =>
    have hlonger := Nat.lt_of_lt_of_le hi (length_readers_apply s op)
    exact reader_apply hi (ih hlonger h) hopen

theorem length_readers_run (s : Session) (ops : List Op) :
    s.readers.length ≤ (s.run ops).readers.length := by
  induction ops generalizing s with
  | nil => exact Nat.le_refl _
  | cons op ops ih => exact Nat.le_trans (length_readers_apply s op) (ih (s.apply op))

/-- What opening a reader leads to. -/
theorem openReader_eq_ok {t : Session} (h : s.openReader = .ok t) :
    SameDocuments s.segment t.segment ∧
      t.readers = s.readers ++ [⟨s.segment.watermark, false⟩] := by
  obtain ⟨u, hu, rfl⟩ := Results.map_eq_ok h
  exact ⟨⟨rfl, rfl, rfl, rfl⟩, rfl⟩

theorem query_eq_ok {t : Mutable} {α : Type} {f : Dictionary → Except Error α} {a : α}
    (h : r.query t f = .ok a) : f t.dictionary = .ok a := by
  unfold Reader.query at h
  split at h
  · cases h
  · exact h

end

/-- A reader that was opened on some documents asks a segment as it was, `found`, and fetches from it
as it is, `now`. More documents have come in before it asked and later still. -/
structure Reading (r : Reader) (found now : Mutable) (docs more later : List Document) : Prop where
  asked : found.Represents (docs ++ more)
  fetched : now.Represents (docs ++ more ++ later)
  offset : now.offset = found.offset
  strategy : now.dictionary.strategy = found.dictionary.strategy
  isOpen : r.isClosed = false
  watermark : r.watermark.toNat = now.offset.toNat + docs.length

namespace Reading

variable {r : Reader} {found now : Mutable} {docs more later : List Document}
  {a : Dictionary.Answer}

/-- To what it fetches from, all that came after the reader's documents is the same. -/
theorem represents_now (h : Reading r found now docs more later) :
    now.Represents (docs ++ (more ++ later)) := by
  have hnow := h.fetched
  rwa [List.append_assoc] at hnow

theorem checkOpen (h : Reading r found now docs more later) : r.checkOpen = .ok () := by
  rw [Reader.checkOpen, h.isOpen]
  rfl

theorem matchAll_eq (h : Reading r found now docs more later) :
    ∃ list, r.matchAll now = .ok list ∧ list.toList = idsBetween now.offset r.watermark := by
  refine ⟨.ofRange now.offset r.watermark, ?_, Reader.toList_ofRange _ _⟩
  rw [Reader.matchAll, h.checkOpen]
  rfl

/-- An open reader fetches the documents that were there when it was opened. -/
theorem allDocuments_eq (h : Reading r found now docs more later) :
    r.allDocuments now = .ok docs := by
  rw [Reader.allDocuments, h.checkOpen]
  exact h.represents_now.mapM_resolve_idsBetween h.watermark

/-- An answer fetches the documents of the reader that it speaks of, however much was inserted before
it was given and after. What it says about a number, `R`, it says about the pairs under the number. -/
theorem documents_read_eq (h : Reading r found now docs more later)
    (hproper : (now.dictionary.read a).Proper) {R : (Field → Prop) → Prop}
    (hnone : ¬ R fun _ => False)
    (hcontains : ∀ id, Dictionary.AgreeOn (Mutable.logOf found.offset (docs ++ more))
        (Mutable.logOf now.offset (docs ++ more ++ later)) id →
      ((now.dictionary.read a).contains id = true ↔
        R fun f => (id, f) ∈ Mutable.logOf found.offset (docs ++ more)))
    {P : Document → Bool} (hP : ∀ d, P d = true ↔ R fun f => f ∈ Mutable.termsOf d) :
    r.documents now (now.dictionary.read a) = .ok (docs.filter P) := by
  -- No number below the offset has pairs, neither then nor now.
  have hlow : ∀ id, (now.dictionary.read a).contains id = true → now.offset ≤ id := by
    intro id hid
    by_contra hlt
    have hfree : ∀ f, (id, f) ∉ Mutable.logOf found.offset (docs ++ more) := by
      intro f hf
      have hle := h.asked.le_of_mem_logOf hf
      rw [← h.offset] at hle
      exact hlt hle
    have hlater : ∀ f, (id, f) ∉ Mutable.logOf now.offset (docs ++ more ++ later) := by
      intro f hf
      exact hlt (h.fetched.le_of_mem_logOf hf)
    have hsays := (hcontains id fun f => iff_of_false (hlater f) (hfree f)).mp hid
    simp only [hfree] at hsays
    exact hnone hsays
  -- The numbers of the reader's documents had all their pairs when it asked.
  have hfind : ∀ i d, docs[i]? = some d →
      (now.dictionary.read a).contains (idAt now.offset i) = P d := by
    intro i d hd
    have hi : i < docs.length := (List.getElem?_eq_some_iff.mp hd).1
    have hlong : i < (docs ++ more).length := by
      rw [List.length_append]
      omega
    have hthen : (docs ++ more)[i]? = some d := by rwa [List.getElem?_append_left hi]
    rw [Bool.eq_iff_iff, hP, h.offset, hcontains _ (h.asked.agreeOn h.fetched h.offset hlong)]
    simp only [h.asked.mem_logOf_idAt hthen]
  exact Reader.documents_eq_filter h.represents_now h.isOpen h.watermark hproper hlow hfind

theorem documents_matchExact (h : Reading r found now docs more later) {field value : Bytes}
    (ha : found.dictionary.matchExact field value = .ok a) :
    r.documents now (now.dictionary.read a) = .ok (docs.filter (hasTerm · field value)) := by
  apply h.documents_read_eq (R := fun pairs => pairs ⟨field, value⟩)
  · exact Dictionary.proper_read_matchExact h.fetched.dictionary h.strategy ha
  · exact id
  · intro id hid
    exact Dictionary.contains_read_matchExact h.asked.dictionary h.fetched.dictionary h.strategy ha hid
  · intro d
    exact decide_eq_true_iff

theorem documents_matchField (h : Reading r found now docs more later) (field : Bytes) :
    r.documents now (now.dictionary.read (found.dictionary.matchField field)) =
      .ok (docs.filter (hasField · field)) := by
  apply h.documents_read_eq (R := fun pairs => ∃ value, pairs ⟨field, value⟩)
  · exact Dictionary.proper_read_matchField h.asked.dictionary h.fetched.dictionary h.strategy
  · simp
  · intro id hid
    exact Dictionary.contains_read_matchField h.asked.dictionary h.fetched.dictionary h.strategy hid
  · intro d
    exact Mutable.hasField_iff

theorem documents_matchPattern (h : Reading r found now docs more later) {field : Bytes}
    {p : Pattern} (hp : Pattern.compile p.text = .ok p)
    (ha : found.dictionary.matchPattern field p = .ok a) :
    r.documents now (now.dictionary.read a) = .ok (docs.filter (hasMatch · field p)) := by
  apply h.documents_read_eq
    (R := fun pairs => ∃ value, pairs ⟨field, value⟩ ∧ p.isMatch value = true)
  · exact Dictionary.proper_read_matchPattern h.asked.dictionary ha
  · simp
  · intro id hid
    exact Dictionary.contains_read_matchPattern h.asked.dictionary hp ha id
  · intro d
    exact Mutable.hasMatch_iff

end Reading

/-- A reader that is still open after two runs was open between them, and is reading. -/
theorem reading_of_openReader {s opened : Session} {r : Reader} {docs : List Document}
    {during later : List Op} (hdocs : s.segment.Represents docs) (hopened : s.openReader = .ok opened)
    (hr : ((opened.run during).run later).readers[s.readers.length]? = some r)
    (hopen : r.isClosed = false) :
    r.watermark = s.segment.watermark ∧
      (opened.run during).readers[s.readers.length]? = some r ∧
      ((opened.run during).run later).segment.offset = s.segment.offset ∧
      ∃ more rest, Reading r (opened.run during).segment
        ((opened.run during).run later).segment docs more rest := by
  obtain ⟨hsame, hreaders⟩ := openReader_eq_ok hopened
  have hgrows := grows_run opened during
  have hgrows' := grows_run (opened.run during) later
  have hlength : s.readers.length < opened.readers.length := by
    rw [hreaders, List.length_append]
    exact Nat.lt_succ_self _
  have hlonger := Nat.lt_of_lt_of_le hlength (length_readers_run opened during)
  have hduring := reader_run hlonger hr hopen
  have hfirst := reader_run hlength hduring hopen
  have hwatermark : r.watermark = s.segment.watermark := by
    rw [hreaders, List.getElem?_append_right (Nat.le_refl _), Nat.sub_self] at hfirst
    rw [← Option.some.inj hfirst]
  have hoffset : ((opened.run during).run later).segment.offset = s.segment.offset := by
    rw [hgrows'.offset, hgrows.offset, hsame.offset]
  obtain ⟨more, hfound⟩ := hgrows.documents docs (hdocs.of_same hsame)
  obtain ⟨rest, hnow⟩ := hgrows'.documents (docs ++ more) hfound
  refine ⟨hwatermark, hduring, hoffset, more, rest, ?_⟩
  exact {
    asked := hfound
    fetched := hnow
    offset := hgrows'.offset
    strategy := hgrows'.strategy
    isOpen := hopen
    watermark := by rw [hwatermark, hdocs.watermark, hoffset] }

/-- A reader sees the documents that were committed when it was opened. What it finds later, it may
fetch later still, whatever is done to the segment and to other readers before and after it asks. -/
theorem open_reader_sees_docs (options : Options) (generator : Nat → Bytes)
    (before during later : List Op) {opened : Session} {r : Reader}
    (hopened : ((new options generator).run before).openReader = .ok opened)
    (hr : ((opened.run during).run later).readers[
      ((new options generator).run before).readers.length]? = some r)
    (hopen : r.isClosed = false) :
    ∃ docs, ((new options generator).run before).segment.committed = .ok docs ∧
      r.watermark = ((new options generator).run before).segment.watermark ∧
      (opened.run during).readers[((new options generator).run before).readers.length]? =
        some r ∧
      (∃ list, r.matchAll ((opened.run during).run later).segment = .ok list ∧
        list.toList = idsBetween options.offset r.watermark) ∧
      r.allDocuments ((opened.run during).run later).segment = .ok docs ∧
      (∀ field value a, r.query (opened.run during).segment (·.matchExact field value) = .ok a →
        r.documents ((opened.run during).run later).segment
            (((opened.run during).run later).segment.dictionary.read a) =
          .ok (docs.filter (hasTerm · field value))) ∧
      (∀ field a, r.query (opened.run during).segment (fun d => .ok (d.matchField field)) = .ok a →
        r.documents ((opened.run during).run later).segment
            (((opened.run during).run later).segment.dictionary.read a) =
          .ok (docs.filter (hasField · field))) ∧
      (∀ field text p a, Pattern.compile text = .ok p →
        r.query (opened.run during).segment (·.matchPattern field p) = .ok a →
        r.documents ((opened.run during).run later).segment
            (((opened.run during).run later).segment.dictionary.read a) =
          .ok (docs.filter (hasMatch · field p))) ∧
      ¬ PostingsId.last < r.watermark ∧
      ∀ list : Postings, list.Keyed → (∀ id ∈ list.toList, options.offset ≤ id) →
        r.documents ((opened.run during).run later).segment list =
          .ok ((list.toList.filter (· < r.watermark)).filterMap fun id =>
            docs[id.toNat - options.offset.toNat]?) := by
  obtain ⟨docs, hdocs⟩ := represents_run_new options generator before
  obtain ⟨hwatermark, hduring, hoffset, more, rest, hreading⟩ :=
    reading_of_openReader hdocs hopened hr hopen
  rw [offset_run_new] at hoffset
  refine ⟨docs, hdocs.committed_eq, hwatermark, hduring, ?_, hreading.allDocuments_eq, ?_, ?_, ?_,
    ?_, ?_⟩
  · have hall := hreading.matchAll_eq
    rwa [hoffset] at hall
  · intro field value a ha
    exact hreading.documents_matchExact (query_eq_ok ha)
  · intro field a ha
    have hfield := query_eq_ok (f := fun d => .ok (d.matchField field)) ha
    rw [← Except.ok.inj hfield]
    exact hreading.documents_matchField field
  · intro field text p a hp ha
    have htext := (Pattern.compile_eq_ok hp).1
    rw [← htext] at hp
    exact hreading.documents_matchPattern hp (query_eq_ok ha)
  · have hlt := r.watermark.toNat_lt_size
    have hlast : PostingsId.last.toNat + 1 = UInt32.size := rfl
    rw [UInt32.lt_iff_toNat_lt]
    omega
  · intro list hkeyed hlow
    have hfetch := Reader.documents_eq_ok hreading.represents_now hopen hreading.watermark hkeyed
    rw [hoffset] at hfetch
    exact hfetch hlow

/-- A document with one letter as its identifier. -/
def letter (x : UInt8) : Document := ⟨some [x], [⟨Bytes.ofText "n", Bytes.ofText "v"⟩]⟩

/-- The reader was opened between two insertions; the segment is closed when it fetches. -/
theorem open_reader_sees_docs_letter :
    ∃ s : Session, ∃ r a,
      ((new ⟨0, 5, .exact⟩ fun _ => []).run [.insert (letter 97)]).openReader = .ok s ∧
      ((s.run [.insert (letter 98)]).run [.close]).readers[0]? = some r ∧
      r.query (s.run [.insert (letter 98)]).segment
        (·.matchExact (Bytes.ofText "n") (Bytes.ofText "v")) = .ok a ∧
      ((s.run [.insert (letter 98)]).segment.dictionary.read a).contains 6 = true ∧
      r.documents ((s.run [.insert (letter 98)]).run [.close]).segment
        (((s.run [.insert (letter 98)]).run [.close]).segment.dictionary.read a) =
          .ok [letter 97] := by
  have hopened : ∃ s, ((new ⟨0, 5, .exact⟩ fun _ => []).run [.insert (letter 97)]).openReader =
      .ok s := ⟨_, rfl⟩
  obtain ⟨s, hs⟩ := hopened
  obtain ⟨docs, hdocs, -, -, -, -, hexact, -⟩ :=
    open_reader_sees_docs ⟨0, 5, .exact⟩ (fun _ => []) [.insert (letter 97)]
      [.insert (letter 98)] [.close] hs (r := ⟨6, false⟩) (by cases hs; rfl) rfl
  have hcommitted : docs = [letter 97] := Except.ok.inj hdocs.symm
  rw [hcommitted] at hexact
  refine ⟨s, ⟨6, false⟩, .live (Bytes.ofText "n") (Bytes.ofText "v"), hs, ?_, ?_, ?_, ?_⟩
  · cases hs
    rfl
  · cases hs
    rfl
  · cases hs
    decide +kernel
  · apply hexact (Bytes.ofText "n") (Bytes.ofText "v")
    cases hs
    rfl

end InvertedIndex.Segment.Session
