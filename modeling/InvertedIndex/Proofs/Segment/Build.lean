import InvertedIndex.Proofs.Segment.Contents
import InvertedIndex.Proofs.Segment.Merged
import InvertedIndex.Proofs.Segment.Regions
import InvertedIndex.Proofs.Segment.Session
import InvertedIndex.Segment.KeyFormat.Listed

namespace InvertedIndex.Segment.Build

open Dictionary (Log)
open Mutable (idAt logOf termsOf)

/-- An index has the postings of a log, by the keys of its terms. -/
structure Indexes (index : Index) (log : Log) : Prop where
  canonical (key : Bytes) (p : Postings) : index.get? key = some p → p.Canonical
  has_key (key : Bytes) :
    index.contains key = true ↔ ∃ id f, (id, f) ∈ log ∧ Key.encode f.name f.value = key
  holds (key : Bytes) (id : PostingsId) :
    ((index.get? key).getD ∅).contains id = true ↔
      ∃ f, (id, f) ∈ log ∧ Key.encode f.name f.value = key

theorem Indexes.canonical_getD {index : Index} {log : Log} (h : Indexes index log) (key : Bytes) :
    ((index.get? key).getD ∅).Canonical := by
  cases hget : index.get? key with
  | none => exact Postings.canonical_empty
  | some p => exact h.canonical key p hget

theorem indexes_empty : Indexes ∅ [] where
  canonical key p h := by cases h
  has_key key := by
    have hnone : (∅ : Index).contains key = false := rfl
    simp [hnone]
  holds key id := by
    have hnone : ((∅ : Index).get? key).getD ∅ = ∅ := rfl
    simp [hnone]

/-- A pair that is added matters to its key only. -/
theorem mem_append_pair_iff {log : Log} {x id : PostingsId} {f : Field} {key : Bytes} :
    (∃ g, (x, g) ∈ log ++ [(id, f)] ∧ Key.encode g.name g.value = key) ↔
      (∃ g, (x, g) ∈ log ∧ Key.encode g.name g.value = key) ∨
        x = id ∧ Key.encode f.name f.value = key := by
  constructor
  · intro h
    obtain ⟨g, hg, hkey⟩ := h
    rw [List.mem_append, List.mem_singleton] at hg
    cases hg with
    | inl hg => exact .inl ⟨g, hg, hkey⟩
    | inr hg =>
      cases hg
      exact .inr ⟨rfl, hkey⟩
  · intro h
    cases h with
    | inl h =>
      obtain ⟨g, hg, hkey⟩ := h
      exact ⟨g, List.mem_append_left _ hg, hkey⟩
    | inr h =>
      obtain ⟨rfl, hkey⟩ := h
      exact ⟨f, by simp, hkey⟩

theorem indexes_addTerm {index : Index} {log : Log} (h : Indexes index log) (id : PostingsId)
    (f : Field) : Indexes (addTerm index id f) (log ++ [(id, f)]) where
  canonical key p hp := by
    rw [addTerm, ByteMap.get?_alter] at hp
    split at hp
    · rw [← Option.some.inj hp]
      exact Postings.canonical_insert (h.canonical_getD _) id
    · exact h.canonical key p hp
  has_key key := by
    simp only [mem_append_pair_iff, exists_or]
    rw [← h.has_key, addTerm, ByteMap.contains, ByteMap.get?_alter]
    split
    · next hkey => simp [hkey]
    · next hkey =>
      have hne : ¬ Key.encode f.name f.value = key := fun heq => hkey heq.symm
      simp [hne, ByteMap.contains]
  holds key x := by
    rw [mem_append_pair_iff, ← h.holds, addTerm, ByteMap.get?_alter]
    split
    · next hkey =>
      subst hkey
      rw [Option.getD_some, Postings.contains_insert (h.canonical_getD _).proper.ordered,
        Bool.or_eq_true, beq_iff_eq, or_comm]
      have hcomm : id = x ↔ x = id := eq_comm
      simp [hcomm]
    · next hkey =>
      have hne : ¬ Key.encode f.name f.value = key := fun heq => hkey heq.symm
      simp [hne]

theorem indexes_addDocument {index : Index} {log : Log} (h : Indexes index log) (d : Document)
    (id : PostingsId) :
    Indexes (addDocument index d id) (log ++ (termsOf d).map fun f => (id, f)) := by
  rw [addDocument]
  induction termsOf d generalizing index log with
  | nil => simpa using h
  | cons f fs ih =>
    have hrest := ih (indexes_addTerm h id f)
    rw [List.append_assoc] at hrest
    exact hrest

theorem add_ofNat_eq_idAt (base : PostingsId) (i : Nat) : base + .ofNat i = idAt base i := by
  rw [idAt, UInt32.ofNat_add, UInt32.ofNat_toNat]

/-- The index has the postings of each term under its key. -/
theorem indexes_indexOf (base : PostingsId) (ds : List Document) :
    Indexes (indexOf base ds) (logOf base ds) := by
  have key (es : List (Document × Nat)) {index : Index} {log : Log} (h : Indexes index log) :
      Indexes (es.foldl (fun index e => addDocument index e.1 (base + .ofNat e.2)) index)
        (log ++ es.flatMap fun e => (termsOf e.1).map fun f => (idAt base e.2, f)) := by
    induction es generalizing index log with
    | nil => simpa using h
    | cons e es ih =>
      have hrest := ih (indexes_addDocument h e.1 (base + .ofNat e.2))
      rw [add_ofNat_eq_idAt, List.append_assoc] at hrest
      rw [List.foldl_cons, List.flatMap_cons, add_ofNat_eq_idAt]
      exact hrest
  exact key ds.zipIdx indexes_empty

/-- Every key leads to the place in the region where its postings end. -/
theorem read_of_mem_keysOf {index : Index} (h : ∀ key p, index.get? key = some p → p.Canonical)
    (hsize : (PostingsRegion.encode index.values).length < UInt64.size) {key : Bytes}
    {stop : UInt64} (hmem : (key, stop) ∈ (keysOf index).entries) :
    ∃ p, index.get? key = some p ∧
      PostingsRegion.read (PostingsRegion.encode index.values) stop.toNat = .ok p := by
  obtain ⟨j, hj⟩ := List.mem_iff_getElem?.mp hmem
  obtain ⟨hkey, hstop⟩ := List.getElem?_zip_eq_some.mp hj
  rw [ByteMap.keys, List.getElem?_map] at hkey
  rw [List.getElem?_map] at hstop
  obtain ⟨⟨k, p⟩, hentry, rfl⟩ := Option.map_eq_some_iff.mp hkey
  obtain ⟨n, hn, rfl⟩ := Option.map_eq_some_iff.mp hstop
  have hvalue : index.values[j]? = some p := by
    rw [ByteMap.values, List.getElem?_map, hentry]
    rfl
  have hcanonical : ∀ q ∈ index.values, q.Canonical := by
    intro q hq
    obtain ⟨⟨k, q⟩, he, rfl⟩ := List.mem_map.mp hq
    exact h k q (ByteMap.mem_entries_iff.mp he)
  have hzip : (p, n) ∈ index.values.zip (PostingsRegion.stops 0 index.values) :=
    List.mem_of_getElem? (List.getElem?_zip_eq_some.mpr ⟨hvalue, hn⟩)
  have hread := PostingsRegion.read_of_mem_zip hcanonical [] [] hzip
  rw [List.nil_append, List.append_nil] at hread
  obtain ⟨hle, hread⟩ := hread
  have hword : (UInt64.ofNat n).toNat = n := by
    rw [UInt64.toNat_ofNat']
    exact Nat.mod_eq_of_lt (Nat.lt_of_le_of_lt hle hsize)
  rw [hword]
  exact ⟨p, ByteMap.mem_entries_iff.mp (List.mem_of_getElem? hentry), hread⟩

theorem keys_keysOf (index : Index) : (keysOf index).keys = index.keys := by
  rw [ByteMap.keys, keysOf, List.map_fst_zip]
  simp [ByteMap.keys, ByteMap.values]

theorem contains_keysOf (index : Index) (key : Bytes) :
    (keysOf index).contains key = index.contains key := by
  rw [Bool.eq_iff_iff, ← ByteMap.mem_keys_iff, ← ByteMap.mem_keys_iff, keys_keysOf]

theorem length_lt_of_addressable {format : KeyFormat} {base : PostingsId} {ds : List Document}
    (h : (write format base ds).Addressable) :
    (DocsRegion.ofDocuments base ds).data.length < UInt64.size ∧
      (PostingsRegion.encode (indexOf base ds).values).length < UInt64.size ∧
      (format.encode (keysOf (indexOf base ds))).length < UInt64.size := by
  refine ⟨h _ ?_, h _ ?_, h _ ?_⟩ <;> simp [write, Data.ofRegions, Data.regions]

/-- Documents that can be written: valid ones with identifiers. -/
def Sound (ds : List Document) : Prop := ∀ d ∈ ds, d.validate = .ok () ∧ d.id.isSome = true

theorem Sound.id_ne {ds : List Document} (h : Sound ds) : ∀ d ∈ ds, d.id ≠ some [] := by
  intro d hd hid
  obtain ⟨-, hvalid, -⟩ := Document.validate_eq_ok.mp (h d hd).1
  obtain ⟨hne, -⟩ := Document.validateId_eq_ok.mp (hvalid [] hid)
  exact hne rfl

/-- What is in a segment that was written for documents. -/
def contentsOf (format : KeyFormat) (base : PostingsId) (ds : List Document) : Contents where
  metadata := .new (.ofNat ds.length) (Data.checksums (DocsRegion.ofDocuments base ds).data
    (DocsRegion.ofDocuments base ds).index (PostingsRegion.encode (indexOf base ds).values)
    (format.encode (keysOf (indexOf base ds))))
  docs := ⟨(DocsRegion.ofDocuments base ds).data, (DocsRegion.ofDocuments base ds).index, base,
    .ofNat (base.toNat + ds.length)⟩
  postings := PostingsRegion.encode (indexOf base ds).values
  keys := keysOf (indexOf base ds)

section

variable {format : KeyFormat} {base : PostingsId} {ds : List Document}

theorem toNat_count (hroom : base.toNat + ds.length ≤ PostingsId.last.toNat) :
    (UInt64.ofNat ds.length).toNat = ds.length := by
  have hlast : PostingsId.last.toNat = 0xFFFFFFFF := rfl
  rw [UInt64.toNat_ofNat']
  omega

/-- What was written can be opened. -/
theorem ofData_write (hroom : base.toNat + ds.length ≤ PostingsId.last.toNat)
    (hsize : (write format base ds).Addressable) :
    Contents.ofData format.decode? (write format base ds) = .ok (contentsOf format base ds) := by
  obtain ⟨-, -, hkeys⟩ := length_lt_of_addressable hsize
  have hstored : ¬ base.toNat + ds.length - base.toNat ≠ ds.length := by omega
  have hdocs := DocsIndex.ofRegions_ofDocuments hroom
  have hmap := KeyMap.ofRegion_encode format hkeys
  have hcount : (Metadata.new (.ofNat ds.length) (Data.checksums
      (DocsRegion.ofDocuments base ds).data (DocsRegion.ofDocuments base ds).index
      (PostingsRegion.encode (indexOf base ds).values)
      (format.encode (keysOf (indexOf base ds))))).numDocs.toNat = ds.length := toNat_count hroom
  rw [Contents.ofData, write, Data.validate_ofRegions]
  simp only [Contents.ofRegions, hdocs, hmap, bind, Except.bind, pure, Except.pure,
    DocsIndex.toNat_number hroom, hcount, if_neg hstored]
  rfl

/-- What was written is opened again. -/
theorem openData_write (hroom : base.toNat + ds.length ≤ PostingsId.last.toNat)
    (hsize : (write format base ds).Addressable) :
    Immutable.openData format.decode? (write format base ds) =
      .ok ⟨some (contentsOf format base ds)⟩ := by
  rw [Immutable.openData, ofData_write hroom hsize]
  rfl

/-- Terms of the documents have keys of their own. -/
theorem encode_eq_iff (hds : Sound ds) {id : PostingsId} {f g : Field} (hf : (id, f) ∈ logOf base ds) :
    Key.encode f.name f.value = Key.encode g.name g.value ↔ f = g := by
  constructor
  · intro h
    have hvalid : ∀ d ∈ ds, d.validate = .ok () := fun d hd => (hds d hd).1
    obtain ⟨hname, hvalue⟩ := Contents.not_isInfix_of_mem_logOf hvalid hf
    obtain ⟨hnames, hvalues⟩ := Key.encode_inj hname hvalue h.symm
    cases f
    cases g
    cases hnames
    cases hvalues
    rfl
  · intro h
    rw [h]

theorem exists_encode_eq_iff (hds : Sound ds) {id : PostingsId} {f : Field} :
    (∃ g, (id, g) ∈ logOf base ds ∧ Key.encode g.name g.value = Key.encode f.name f.value) ↔
      (id, f) ∈ logOf base ds := by
  constructor
  · intro h
    obtain ⟨g, hg, hkey⟩ := h
    rwa [(encode_eq_iff hds hg).mp hkey] at hg
  · intro h
    exact ⟨f, h, rfl⟩

/-- What is opened holds the documents that were written. -/
theorem represents_contentsOf (hroom : base.toNat + ds.length ≤ PostingsId.last.toNat)
    (hds : Sound ds) (hsize : (write format base ds).Addressable) :
    (contentsOf format base ds).Represents base ds where
  base_eq := rfl
  limit_eq := DocsIndex.toNat_number hroom
  numDocs := toNat_count hroom
  valid := fun d hd => (hds d hd).1
  identified := fun d hd => (hds d hd).2
  document := by
    intro i d hd
    obtain ⟨hdocs, -, -⟩ := length_lt_of_addressable hsize
    have hi : i < ds.length := (List.getElem?_eq_some_iff.mp hd).1
    have hnumber := Mutable.toNat_idAt_of_lt (DocsIndex.toNat_number hroom) hi
    have hle : base ≤ idAt base i := by
      rw [UInt32.le_iff_toNat_le, hnumber]
      omega
    have hplace : (idAt base i).toNat - base.toNat = i := by omega
    have hread : ds[(idAt base i).toNat - base.toNat]? = some d := by rwa [hplace]
    exact DocsIndex.get_ofDocuments (DocsIndex.toNat_number hroom) hds.id_ne hdocs hle hread
  mem_keys := by
    intro f
    have hkey := (indexes_indexOf base ds).has_key (Key.encode f.name f.value)
    rw [← contains_keysOf] at hkey
    exact hkey.trans (exists_congr fun id => exists_encode_eq_iff hds)
  entry := by
    intro key stop hmem
    have hindex := indexes_indexOf base ds
    obtain ⟨-, hpostings, -⟩ := length_lt_of_addressable hsize
    obtain ⟨p, hget, hread⟩ := read_of_mem_keysOf hindex.canonical hpostings hmem
    have hcontains : (indexOf base ds).contains key = true := by rw [ByteMap.contains, hget]; rfl
    obtain ⟨id, f, hf, rfl⟩ := (hindex.has_key key).mp hcontains
    refine ⟨f, rfl, ⟨id, hf⟩, p, hread, (hindex.canonical _ p hget).proper, ?_⟩
    intro x
    have hholds := hindex.holds (Key.encode f.name f.value) x
    rw [hget, Option.getD_some] at hholds
    exact hholds.trans (exists_encode_eq_iff hds)

end

/-- A source that hands out sound documents. -/
def Hands (source : Source) : Prop := ∃ ds, source.documents = .ok ds ∧ Sound ds

theorem sound_foldl_join {ds es : List Document} (hds : Sound ds) (hes : Sound es) :
    Sound (es.foldl (join Document.id) ds) := by
  intro d hd
  cases mem_of_mem_foldl_join hd with
  | inl hd => exact hds d hd
  | inr hd => exact hes d hd

theorem mergeInto_eq_ok {sources : List Source} (h : ∀ source ∈ sources, Hands source)
    {ds : List Document} (hds : Sound ds) : ∃ es, mergeInto ds sources = .ok es ∧ Sound es := by
  induction sources generalizing ds with
  | nil => exact ⟨ds, rfl, hds⟩
  | cons source sources ih =>
    obtain ⟨es, hes, hsound⟩ := h source (by simp)
    have hnext : Sound ((es.foldl (join Document.id) ds).filter
        (Merged.isOutside source.tombstones ∘ Document.id)) :=
      fun d hd => sound_foldl_join hds hsound d (List.mem_filter.mp hd).1
    obtain ⟨rest, hrest, hall⟩ := ih (fun s hs => h s (by simp [hs])) hnext
    refine ⟨rest, ?_, hall⟩
    rw [mergeInto, hes]
    exact hrest

/-- Sources that hand out valid documents can be merged. -/
theorem merge_eq_ok {sources : List Source} (h : ∀ source ∈ sources, Hands source) :
    ∃ ds, merge sources = .ok ds ∧ Sound ds := by
  rw [merge_eq]
  exact mergeInto_eq_ok h fun _ hd => absurd hd List.not_mem_nil

theorem build_eq_ok_iff {format : KeyFormat} {base : PostingsId} {sources : List Source} {d : Data} :
    build format base sources = .ok d ↔ ∃ ds, merge sources = .ok ds ∧
      base.toNat + ds.length ≤ PostingsId.last.toNat ∧ d = write format base ds := by
  unfold build
  cases merge sources with
  | error e => simp
  | ok ds =>
    dsimp only
    split
    · next hfull => simp [Nat.not_le_of_lt hfull]
    · next hroom => simp [Nat.le_of_not_lt hroom, eq_comm]

theorem build_eq_ok {format : KeyFormat} {base : PostingsId} {sources : List Source} {ds : List Document}
    (hds : merge sources = .ok ds) (hroom : base.toNat + ds.length ≤ PostingsId.last.toNat) :
    build format base sources = .ok (write format base ds) := build_eq_ok_iff.mpr ⟨ds, hds, hroom, rfl⟩

/-- What is built can be opened, and represents what was merged. -/
theorem opened_of_build {format : KeyFormat} {base : PostingsId} {sources : List Source} {d : Data}
    (h : ∀ source ∈ sources, Hands source) (hd : build format base sources = .ok d)
    (hsize : d.Addressable) :
    ∃ ds, merge sources = .ok ds ∧ Sound ds ∧
      Immutable.openData format.decode? d = .ok ⟨some (contentsOf format base ds)⟩ ∧
      (contentsOf format base ds).Represents base ds := by
  obtain ⟨ds, hds, hsound⟩ := merge_eq_ok h
  obtain ⟨es, hes, hroom, rfl⟩ := build_eq_ok_iff.mp hd
  obtain rfl : ds = es := Except.ok.inj (hds.symm.trans hes)
  exact ⟨ds, hds, hsound, openData_write hroom hsize, represents_contentsOf hroom hsound hsize⟩

end InvertedIndex.Segment.Build

namespace InvertedIndex.Segment

/-- Sources as they come about: segments that were written to and then sealed or closed, and built
ones that were opened. -/
inductive Source.Made (format : KeyFormat) : Source → Prop
  | fromMutable (options : Options) (generator : Nat → Bytes) (ops : List Session.Op)
      (h : (((Session.new options generator).run ops).segment.isSealed ||
        ((Session.new options generator).run ops).segment.isClosed) = true) :
      Made format (.fromMutable ((Session.new options generator).run ops).segment)
  | fromImmutable (base : PostingsId) (sources : List Source)
      (hmade : ∀ source ∈ sources, Made format source) (d : Data)
      (hd : Build.build format base sources = .ok d) (hsize : d.Addressable) (s : Immutable)
      (hs : Immutable.openData format.decode? d = .ok s) : Made format (.fromImmutable s)

/-- A sealed segment that holds some letters and has tombstones for others. -/
def Source.letters (xs tombstones : List UInt8) : Source :=
  .fromMutable ((Session.new ⟨0, 5, .exact⟩ fun _ => []).run
    (xs.map (fun x => .insert (Session.letter x)) ++ tombstones.map (fun x => .tombstone [x]) ++
      [.sealSegment])).segment

theorem Source.made_letters (format : KeyFormat) (xs tombstones : List UInt8) :
    (letters xs tombstones).Made format := by
  apply Made.fromMutable
  rw [Session.run_append]
  exact Session.isSealed_or_isClosed_sealSegment _

namespace Build

open Mutable (idAt idsBetween hasTerm hasField)
open Contents (numbersOf)

/-- Sources of either kind hand out documents that are valid. -/
theorem hands_of_made {format : KeyFormat} {source : Source} (h : source.Made format) : Hands source := by
  induction h with
  | fromMutable options generator ops hready =>
    obtain ⟨ds, hds⟩ := Session.represents_run_new options generator ops
    refine ⟨ds, ?_, fun d hd => ⟨hds.valid d hd, hds.identified d hd⟩⟩
    rw [Source.documents, ← Bool.not_or, hready]
    exact hds.committed_eq
  | fromImmutable base sources hmade d hd hsize s hs ih =>
    obtain ⟨ds, -, hsound, hopen, hc⟩ := opened_of_build ih hd hsize
    obtain rfl := Except.ok.inj (hopen.symm.trans hs)
    exact ⟨ds, hc.allDocuments_eq, hsound⟩

/-- What is built from any sources can be opened and answers every query as its documents say, for
any bytes that are asked for. -/
theorem build_answers_docs {format : KeyFormat} {sources : List Source}
    (hmade : ∀ source ∈ sources, source.Made format) :
    ∃ ds, merge sources = .ok ds ∧
      ∀ base : PostingsId, base.toNat + ds.length ≤ PostingsId.last.toNat →
        ∃ d, build format base sources = .ok d ∧ (d.Addressable →
          ∃ c, Immutable.openData format.decode? d = .ok ⟨some c⟩ ∧
            c.base = base ∧ c.limit.toNat = base.toNat + ds.length ∧ c.size = ds.length ∧
            c.metadata.numDocs.toNat = ds.length ∧
            (∀ field value,
              (∃ p, c.matchTerm field value = .ok p ∧
                p.toList = numbersOf base ds (hasTerm · field value)) ∧
              c.containsTerm field value = ds.any (hasTerm · field value)) ∧
            (∀ field,
              (∃ p, c.matchField field = .ok p ∧ p.toList = numbersOf base ds (hasField · field)) ∧
              c.containsField field = ds.any (hasField · field) ∧
              ∃ vs, c.terms field = .ok vs ∧ Bytes.Ascending vs ∧
                ∀ v, v ∈ vs ↔ ds.any (hasTerm · field v) = true) ∧
            (∀ id, c.containsId id = ds.any fun d => d.id = some id) ∧
            c.matchAll.toList = idsBetween base c.limit ∧
            (∀ i d, ds[i]? = some d → c.document (idAt base i) = .ok d) ∧
            c.allDocuments = .ok ds ∧
            ∀ p : Postings, (∀ id ∈ p.toList, base ≤ id ∧ id < c.limit) →
              c.documents p =
                .ok (p.toList.filterMap fun id => ds[id.toNat - base.toNat]?)) := by
  obtain ⟨ds, hds, hsound⟩ := merge_eq_ok fun source hs => hands_of_made (hmade source hs)
  refine ⟨ds, hds, ?_⟩
  intro base hroom
  refine ⟨write format base ds, build_eq_ok hds hroom, ?_⟩
  intro hsize
  have hc := represents_contentsOf hroom hsound hsize
  refine ⟨contentsOf format base ds, ?_, hc.base_eq, hc.limit_eq, ?_, hc.numDocs, ?_, ?_,
    hc.containsId_eq, hc.matchAll_eq, hc.document, hc.allDocuments_eq, fun p => hc.documents_eq⟩
  · rw [Immutable.openData, ofData_write hroom hsize]
    rfl
  · rw [Contents.size, hc.limit_eq, hc.base_eq, Nat.add_sub_cancel_left]
  · intro field value
    obtain ⟨p, hp, -, hlist⟩ := hc.matchTerm_eq field value
    exact ⟨⟨p, hp, hlist⟩, hc.containsTerm_eq field value⟩
  · intro field
    obtain ⟨p, hp, -, hlist⟩ := hc.matchField_eq field
    exact ⟨⟨p, hp, hlist⟩, hc.containsField_eq field, hc.terms_eq field⟩

/-- A sealed segment with one document, built into a segment that starts with number 7. -/
theorem build_answers_docs_letter :
    ∃ d c, build .listed 7 [.fromMutable ((Session.new ⟨0, 5, .exact⟩ fun _ => []).run
        [.insert (Session.letter 97), .sealSegment]).segment] = .ok d ∧
      Immutable.openData KeyFormat.listed.decode? d = .ok ⟨some c⟩ ∧
      (∃ p, c.matchTerm Document.idField [97] = .ok p ∧ p.toList = [7]) ∧
      c.containsField (Bytes.ofText "m") = false ∧
      c.allDocuments = .ok [Session.letter 97] := by
  have hmade : ∀ source ∈ [Source.fromMutable ((Session.new ⟨0, 5, .exact⟩ fun _ => []).run
      [.insert (Session.letter 97), .sealSegment]).segment], source.Made .listed := by
    intro source hsource
    rw [List.mem_singleton.mp hsource]
    exact .fromMutable _ _ _ rfl
  obtain ⟨ds, hds, hbuild⟩ := build_answers_docs hmade
  have hletter : ds = [Session.letter 97] := Except.ok.inj (hds.symm.trans rfl)
  subst hletter
  obtain ⟨d, hd, hopen⟩ := hbuild 7 (by decide)
  have hwrite : d = write .listed 7 [Session.letter 97] := Except.ok.inj (hd.symm.trans rfl)
  have hsmall : ∀ r ∈ (write .listed 7 [Session.letter 97]).regions, (r.getD []).length < UInt64.size := by
    decide +kernel
  have haddressable : d.Addressable := by
    intro bs hbs
    rw [hwrite] at hbs
    exact hsmall (some bs) hbs
  obtain ⟨c, hc, -, -, -, -, hterm, hfield, -, -, -, hall, -⟩ := hopen haddressable
  obtain ⟨⟨p, hp, hlist⟩, -⟩ := hterm Document.idField [97]
  obtain ⟨-, hcontains, -⟩ := hfield (Bytes.ofText "m")
  exact ⟨d, c, hd, hc, ⟨p, hp, hlist.trans (by decide)⟩, hcontains.trans (by decide), hall⟩

end Build

end InvertedIndex.Segment
