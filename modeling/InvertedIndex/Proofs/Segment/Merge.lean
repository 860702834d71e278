import InvertedIndex.Proofs.Segment.Build

namespace InvertedIndex.Segment

/-- A document of a source, with the position of the source and its own position there. -/
structure Entry where
  source : Nat
  place : Nat
  document : Document

namespace Entry

def id (e : Entry) : Option Bytes := e.document.id

/-- Sources come in order, and the documents of a source in theirs. -/
def Before (e e' : Entry) : Prop :=
  e.source < e'.source ∨ e.source = e'.source ∧ e.place < e'.place

theorem Before.trans {e e' e'' : Entry} (h : Before e e') (h' : Before e' e'') : Before e e'' := by
  unfold Before at *
  omega

end Entry

section

variable {α : Type} {key : α → Option Bytes} {R : α → α → Prop} {xs es : List α} {a e : α}

theorem join_eq (key : α → Option Bytes) (xs : List α) (a : α) :
    join key xs a = xs ∧ (∃ x ∈ xs, key x = key a ∧ (key a).isSome = true) ∨
      join key xs a = xs ++ [a] := by
  unfold join
  split
  · next h =>
    rw [Bool.and_eq_true, List.any_eq_true] at h
    obtain ⟨hsome, x, hx, hkey⟩ := h
    exact .inl ⟨rfl, x, hx, of_decide_eq_true hkey, hsome⟩
  · exact .inr rfl

theorem sublist_foldl_join : (es.foldl (join key) xs).Sublist (xs ++ es) := by
  induction es generalizing xs with
  | nil => rw [List.append_nil, List.foldl_nil]
  | cons a es ih =>
    rw [List.foldl_cons]
    obtain ⟨hjoin, -⟩ | hjoin := join_eq key xs a
    · rw [hjoin]
      exact ih.trans (List.Sublist.append_left (List.sublist_cons_self a es) xs)
    · rw [hjoin]
      have hrest : (es.foldl (join key) (xs ++ [a])).Sublist (xs ++ [a] ++ es) := ih
      rwa [List.append_assoc] at hrest

/-- No key gets lost. -/
theorem exists_mem_foldl_join {k : Bytes} :
    (∃ e ∈ es.foldl (join key) xs, key e = some k) ↔ ∃ e ∈ xs ++ es, key e = some k := by
  induction es generalizing xs with
  | nil => rw [List.append_nil, List.foldl_nil]
  | cons a es ih =>
    rw [List.foldl_cons, ih]
    obtain ⟨hjoin, x, hx, hkey, -⟩ | hjoin := join_eq key xs a
    · rw [hjoin]
      constructor
      · intro h
        obtain ⟨e, he, hk⟩ := h
        refine ⟨e, ?_, hk⟩
        rw [List.mem_append] at he
        rw [List.mem_append, List.mem_cons]
        exact he.imp_right .inr
      · intro h
        obtain ⟨e, he, hk⟩ := h
        rw [List.mem_append, List.mem_cons] at he
        obtain he | rfl | he := he
        · exact ⟨e, List.mem_append_left _ he, hk⟩
        · exact ⟨x, List.mem_append_left _ hx, hkey.trans hk⟩
        · exact ⟨e, List.mem_append_right _ he, hk⟩
    · rw [hjoin, List.append_assoc]
      rfl

theorem distinct_join (h : Distinct key xs) : Distinct key (join key xs a) := by
  unfold join
  split
  · exact h
  · next hnew =>
    refine List.pairwise_append.mpr ⟨h, List.pairwise_singleton _ _, ?_⟩
    intro x hx y hy hkey
    obtain rfl := List.mem_singleton.mp hy
    rw [Bool.and_eq_true, List.any_eq_true] at hnew
    rw [hkey, ← Option.not_isSome_iff_eq_none]
    exact fun hsome => hnew ⟨hsome, x, hx, decide_eq_true hkey⟩

theorem eq_of_distinct (h : Distinct key xs) {e e' : α} (he : e ∈ xs) (he' : e' ∈ xs)
    (hsome : (key e).isSome = true) (hkey : key e' = key e) : e' = e := by
  obtain ⟨i, hi, rfl⟩ := List.mem_iff_getElem.mp he
  obtain ⟨j, hj, rfl⟩ := List.mem_iff_getElem.mp he'
  have hpairs := List.pairwise_iff_getElem.mp h
  obtain hij | rfl | hji := Nat.lt_trichotomy i j
  · rw [hpairs i j hi hj hij hkey.symm] at hsome
    cases hsome
  · rfl
  · rw [← hkey, hpairs j i hj hi hji hkey] at hsome
    cases hsome

/-- Who is there comes before all others with the key. -/
theorem first_of_mem_foldl_join (htrans : ∀ a b c, R a b → R b c → R a c)
    (horder : (xs ++ es).Pairwise R) (hxs : Distinct key xs) (he : e ∈ es.foldl (join key) xs)
    (hsome : (key e).isSome = true) : ∀ e' ∈ xs ++ es, key e' = key e → e' = e ∨ R e e' := by
  induction es generalizing xs with
  | nil =>
    intro e' he' hkey
    rw [List.append_nil] at he'
    exact .inl (eq_of_distinct hxs he he' hsome hkey)
  | cons a es ih =>
    intro e' he' hkey
    rw [List.foldl_cons] at he
    have hdistinct := distinct_join (a := a) hxs
    obtain ⟨hjoin, x, hx, hxa, -⟩ | hjoin := join_eq key xs a
    · rw [hjoin] at he
      have hrest : (xs ++ es).Pairwise R :=
        horder.sublist (List.Sublist.append_left (List.sublist_cons_self a es) xs)
      have hfirst := ih hrest hxs he
      rw [List.mem_append, List.mem_cons] at he'
      obtain he' | rfl | he' := he'
      · exact hfirst e' (List.mem_append_left _ he') hkey
      · have hxe' : R x e' := (List.pairwise_append.mp horder).2.2 x hx e' (by simp)
        obtain rfl | hbefore := hfirst x (List.mem_append_left _ hx) (hxa.trans hkey)
        · exact .inr hxe'
        · exact .inr (htrans _ _ _ hbefore hxe')
      · exact hfirst e' (List.mem_append_right _ he') hkey
    · have hassoc : xs ++ a :: es = xs ++ [a] ++ es := (List.append_cons xs a es)
      rw [hjoin] at he hdistinct
      rw [hassoc] at horder he'
      exact ih horder hdistinct he e' he' hkey

end

/-- The documents of the source at a position. -/
def entriesAt (i : Nat) (ds : List Document) : List Entry := ds.zipIdx.map fun (d, k) => ⟨i, k, d⟩

theorem mem_entriesAt {i : Nat} {ds : List Document} {e : Entry} :
    e ∈ entriesAt i ds ↔ e.source = i ∧ ds[e.place]? = some e.document := by
  rw [entriesAt, List.mem_map]
  constructor
  · intro h
    obtain ⟨⟨d, k⟩, hmem, rfl⟩ := h
    exact ⟨rfl, List.mem_zipIdx_iff_getElem?.mp hmem⟩
  · intro h
    obtain ⟨rfl, hd⟩ := h
    exact ⟨(e.document, e.place), List.mem_zipIdx_iff_getElem?.mpr hd, rfl⟩

theorem map_document_entriesAt (i : Nat) (ds : List Document) :
    (entriesAt i ds).map Entry.document = ds := by
  rw [entriesAt, List.map_map]
  exact List.zipIdx_map_fst 0 ds

theorem map_document_foldl_join (es xs : List Entry) :
    (es.foldl (join Entry.id) xs).map Entry.document =
      (es.map Entry.document).foldl (join Document.id) (xs.map Entry.document) := map_foldl_join xs es

theorem pairwise_zipIdx {β : Type} (xs : List β) : xs.zipIdx.Pairwise (·.2 < ·.2) := by
  rw [← List.pairwise_map (f := Prod.snd) (R := (· < ·)), List.zipIdx_map_snd]
  exact List.pairwise_lt_range' 1

theorem before_entriesAt (i : Nat) (ds : List Document) : (entriesAt i ds).Pairwise Entry.Before := by
  rw [entriesAt, List.pairwise_map]
  exact (pairwise_zipIdx ds).imp fun h => .inr ⟨rfl, h⟩

/-- What a source hands out, which is nothing if it fails to. -/
def Source.handed (source : Source) : List Document := source.documents.toOption.getD []

/-- The documents of all sources in order. -/
def entries (sources : List Source) : List Entry :=
  sources.zipIdx.flatMap fun (source, i) => entriesAt i source.handed

/-- A source hands out the document at its position. -/
def HandsOut (sources : List Source) (e : Entry) : Prop :=
  ∃ source ds, sources[e.source]? = some source ∧ source.documents = .ok ds ∧
    ds[e.place]? = some e.document

theorem mem_entries {sources : List Source} {e : Entry} :
    e ∈ entries sources ↔ HandsOut sources e := by
  rw [entries, List.mem_flatMap]
  constructor
  · intro h
    obtain ⟨⟨source, i⟩, hsource, he⟩ := h
    obtain ⟨rfl, hd⟩ := mem_entriesAt.mp he
    cases hds : source.documents with
    | error x =>
      rw [Source.handed, hds] at hd
      cases hd
    | ok ds =>
      rw [Source.handed, hds] at hd
      exact ⟨source, ds, List.mem_zipIdx_iff_getElem?.mp hsource, hds, hd⟩
  · intro h
    obtain ⟨source, ds, hsource, hds, hd⟩ := h
    refine ⟨(source, e.source), List.mem_zipIdx_iff_getElem?.mpr hsource, mem_entriesAt.mpr ⟨rfl, ?_⟩⟩
    rw [Source.handed, hds]
    exact hd

theorem before_entries (sources : List Source) : (entries sources).Pairwise Entry.Before := by
  rw [entries, List.pairwise_flatMap]
  refine ⟨fun _ _ => before_entriesAt _ _, (pairwise_zipIdx sources).imp ?_⟩
  intro a b hab e he e' he'
  left
  rwa [(mem_entriesAt.mp he).1, (mem_entriesAt.mp he').1]

theorem entries_append_singleton (sources : List Source) (source : Source) :
    entries (sources ++ [source]) =
      entries sources ++ entriesAt sources.length source.handed := by
  simp [entries, List.zipIdx_append]

/-- The last position of a source that has a tombstone for the identifier, if there is one. -/
def IsLastTombstone (sources : List Source) (id : Bytes) : Option Nat → Prop
  | none => ∀ source ∈ sources, id ∉ source.tombstones
  | some t => (∃ source, sources[t]? = some source ∧ id ∈ source.tombstones) ∧
    ∀ i source, t < i → sources[i]? = some source → id ∉ source.tombstones

/-- The position is strictly behind the other one, if there is one. -/
def Behind : Option Nat → Nat → Prop
  | none, _ => True
  | some t, i => t < i

/-- No source from that of the document on has a tombstone for it. -/
def isKept (sources : List Source) (e : Entry) : Bool :=
  (sources.drop e.source).all fun source => Merged.isOutside source.tombstones e.id

def kept (sources : List Source) : List Entry := (entries sources).filter (isKept sources)

/-- Of the documents that are kept, the first with each identifier. -/
def firsts (sources : List Source) : List Entry := (kept sources).foldl (join Entry.id) []

theorem isLastTombstone_append_singleton {sources : List Source} {source : Source} {id : Bytes}
    {t : Option Nat} (h : IsLastTombstone sources id t) (hsource : id ∉ source.tombstones) :
    IsLastTombstone (sources ++ [source]) id t := by
  cases t with
  | none =>
    intro s hs
    rw [List.mem_append, List.mem_singleton] at hs
    obtain hs | rfl := hs
    · exact h s hs
    · exact hsource
  | some t =>
    obtain ⟨⟨s, hs, htombstone⟩, hlast⟩ := h
    have ht := (List.getElem?_eq_some_iff.mp hs).1
    refine ⟨⟨s, by rwa [List.getElem?_append_left ht], htombstone⟩, ?_⟩
    intro i s' hti hs'
    obtain hi | hi := Nat.lt_or_ge i sources.length
    · rw [List.getElem?_append_left hi] at hs'
      exact hlast i s' hti hs'
    · rw [List.getElem?_append_right hi] at hs'
      rwa [List.mem_singleton.mp (List.mem_of_getElem? hs')]

theorem exists_isLastTombstone (sources : List Source) (id : Bytes) :
    ∃ t, IsLastTombstone sources id t := by
  induction sources using List.reverseRecOn with
  | nil => exact ⟨none, by simp [IsLastTombstone]⟩
  | append_singleton sources source ih =>
    by_cases h : id ∈ source.tombstones
    · refine ⟨some sources.length, ⟨source, by simp, h⟩, ?_⟩
      intro i s hi hs
      have hout : (sources ++ [source]).length ≤ i := by
        rw [List.length_append]
        exact hi
      rw [List.getElem?_eq_none hout] at hs
      cases hs
    · obtain ⟨t, ht⟩ := ih
      exact ⟨t, isLastTombstone_append_singleton ht h⟩

theorem isOutside_some {ids : List Bytes} {id : Bytes} :
    Merged.isOutside ids (some id) = true ↔ id ∉ ids := by
  simp [Merged.isOutside]

theorem isKept_iff {sources : List Source} {id : Bytes} {t : Option Nat}
    (ht : IsLastTombstone sources id t) {e : Entry} (he : e.id = some id) :
    isKept sources e = true ↔ Behind t e.source := by
  have hall : isKept sources e = true ↔
      ∀ i source, sources[e.source + i]? = some source → id ∉ source.tombstones := by
    rw [isKept, List.all_eq_true, he]
    simp only [List.mem_iff_getElem?, List.getElem?_drop, isOutside_some]
    constructor
    · intro h i source hsource
      exact h source ⟨i, hsource⟩
    · intro h source hsource
      obtain ⟨i, hi⟩ := hsource
      exact h i source hi
  rw [hall]
  cases t with
  | none => exact iff_of_true (fun i source hsource => ht source (List.mem_of_getElem? hsource)) trivial
  | some t =>
    obtain ⟨⟨s, hs, htombstone⟩, hlast⟩ := ht
    constructor
    · intro h
      by_contra hle
      have hle : e.source ≤ t := Nat.not_lt.mp hle
      rw [← Nat.add_sub_cancel' hle] at hs
      exact h _ s hs htombstone
    · intro h i source hsource
      exact hlast _ source (Nat.lt_of_lt_of_le h (Nat.le_add_right _ i)) hsource

/-- One more source: its documents come last, and its tombstones undo whatever is there. -/
theorem kept_append_singleton (sources : List Source) (source : Source) :
    kept (sources ++ [source]) =
      (kept sources ++ entriesAt sources.length source.handed).filter
        (Merged.isOutside source.tombstones ∘ Entry.id) := by
  rw [kept, entries_append_singleton, List.filter_append, List.filter_append, kept,
    List.filter_filter]
  congr 1
  · apply List.filter_congr
    intro e he
    obtain ⟨s, ds, hs, -⟩ := mem_entries.mp he
    have hlt := (List.getElem?_eq_some_iff.mp hs).1
    rw [isKept, List.drop_append_of_le_length (Nat.le_of_lt hlt), List.all_append, isKept,
      List.all_cons, List.all_nil, Bool.and_true, Bool.and_comm]
    rfl
  · apply List.filter_congr
    intro e he
    rw [isKept, (mem_entriesAt.mp he).1, List.drop_left, List.all_cons, List.all_nil, Bool.and_true]
    rfl

theorem mem_kept {sources : List Source} {e : Entry} :
    e ∈ kept sources ↔ HandsOut sources e ∧ isKept sources e = true := by
  rw [kept, List.mem_filter, mem_entries]

theorem firsts_sublist (sources : List Source) : (firsts sources).Sublist (kept sources) :=
  sublist_foldl_join

theorem before_kept (sources : List Source) : (kept sources).Pairwise Entry.Before :=
  (before_entries sources).sublist List.filter_sublist

theorem exists_mem_firsts {sources : List Source} {id : Bytes} :
    (∃ e ∈ firsts sources, e.id = some id) ↔ ∃ e ∈ kept sources, e.id = some id :=
  exists_mem_foldl_join

theorem distinct_firsts (sources : List Source) : Distinct Entry.id (firsts sources) := by
  have hfold (es : List Entry) : ∀ xs, Distinct Entry.id xs →
      Distinct Entry.id (es.foldl (join Entry.id) xs) := by
    induction es with
    | nil => exact fun _ => id
    | cons e es ih => exact fun xs hxs => ih _ (distinct_join hxs)
  exact hfold (kept sources) [] List.Pairwise.nil

theorem first_of_mem_firsts {sources : List Source} {e : Entry} (he : e ∈ firsts sources) {id : Bytes}
    (hid : e.id = some id) : ∀ e' ∈ kept sources, e'.id = some id → e' = e ∨ e.Before e' := by
  intro e' he' hid'
  have hsome : (Entry.id e).isSome = true := by rw [hid]; rfl
  have htrans : ∀ a b c : Entry, a.Before b → b.Before c → a.Before c :=
    fun _ _ _ => Entry.Before.trans
  exact first_of_mem_foldl_join htrans (before_kept sources) List.Pairwise.nil he hsome e' he'
    (hid'.trans hid.symm)

namespace Build

/-- What the sources make together is what is first among the documents that are kept. -/
theorem mergeInto_eq {sources : List Source}
    (h : ∀ source ∈ sources, ∃ ds, source.documents = .ok ds) :
    mergeInto [] sources = .ok ((firsts sources).map Entry.document) := by
  unfold firsts
  induction sources using List.reverseRecOn with
  | nil => rfl
  | append_singleton sources source ih =>
    obtain ⟨ds, hds⟩ := h source (by simp)
    have hhanded : source.handed = ds := by
      rw [Source.handed, hds]
      rfl
    rw [mergeInto_append, ih fun s hs => h s (by simp [hs]), kept_append_singleton, hhanded]
    dsimp only
    rw [mergeInto, hds]
    apply congrArg Except.ok
    calc
      _ = (((entriesAt sources.length ds).foldl (join Entry.id)
            ((kept sources).foldl (join Entry.id) [])).map Entry.document).filter
            (Merged.isOutside source.tombstones ∘ Document.id) := by
        rw [map_document_foldl_join (entriesAt sources.length ds), map_document_entriesAt]
      _ = (((kept sources ++ entriesAt sources.length ds).foldl (join Entry.id) []).filter
            (Merged.isOutside source.tombstones ∘ Entry.id)).map Entry.document := by
        rw [← List.foldl_append, List.filter_map]
        rfl
      _ = _ := by
        rw [filter_foldl_join]
        rfl

open Mutable (idAt)
open Source (letters)

/-- What is built keeps, for each identifier, the first document behind the last tombstone, if there is
one; the documents that are kept stand in the order of the sources and have consecutive numbers. -/
theorem build_keeps_first {format : KeyFormat} {base : PostingsId} {sources : List Source}
    (hmade : ∀ source ∈ sources, source.Made format) {d : Data}
    (hd : build format base sources = .ok d) (hsize : d.Addressable) :
    ∃ (c : Contents) (stored : List Entry), Immutable.openData format.decode? d = .ok ⟨some c⟩ ∧
      c.base = base ∧
      c.limit.toNat = base.toNat + stored.length ∧
      merge sources = .ok (stored.map Entry.document) ∧
      c.allDocuments = .ok (stored.map Entry.document) ∧
      (∀ n e, stored[n]? = some e → (idAt base n).toNat = base.toNat + n ∧
        c.document (idAt base n) = .ok e.document) ∧
      stored.Pairwise Entry.Before ∧
      (∀ e ∈ stored, HandsOut sources e ∧ e.id.isSome = true) ∧
      (stored.map Entry.id).Nodup ∧
      ∀ id, ∃ t, IsLastTombstone sources id t ∧
        ((∃ e ∈ stored, e.id = some id) ↔
          ∃ e, HandsOut sources e ∧ e.id = some id ∧ Behind t e.source) ∧
        ∀ e ∈ stored, e.id = some id → Behind t e.source ∧
          ∀ e', HandsOut sources e' → e'.id = some id → Behind t e'.source →
            e' = e ∨ e.Before e' := by
  have hands := fun source hs => hands_of_made (hmade source hs)
  obtain ⟨ds, hds, hsound, hopen, hc⟩ := opened_of_build hands hd hsize
  have hmerge := mergeInto_eq fun source hs => (hands source hs).imp fun _ h => h.1
  rw [← merge_eq, hds, Except.ok.injEq] at hmerge
  subst hmerge
  have hlimit := hc.limit_eq
  rw [List.length_map] at hlimit
  have hstored : ∀ e ∈ firsts sources, HandsOut sources e ∧ e.id.isSome = true := by
    intro e he
    have hout := (mem_kept.mp ((firsts_sublist sources).subset he)).1
    exact ⟨hout, (hsound e.document (List.mem_map_of_mem he)).2⟩
  refine ⟨contentsOf format base ((firsts sources).map Entry.document), firsts sources, hopen, rfl, hlimit,
    hds, hc.allDocuments_eq, ?_, (before_kept sources).sublist (firsts_sublist sources), hstored, ?_, ?_⟩
  · intro n e he
    have hn := (List.getElem?_eq_some_iff.mp he).1
    refine ⟨Mutable.toNat_idAt_of_lt hlimit hn, hc.document n e.document ?_⟩
    rw [List.getElem?_map, he]
    rfl
  · refine List.pairwise_map.mpr ((distinct_firsts sources).imp_of_mem ?_)
    intro e e' he _ hdistinct hid
    have hsome := (hstored e he).2
    rw [hdistinct hid] at hsome
    cases hsome
  · intro id
    obtain ⟨t, ht⟩ := exists_isLastTombstone sources id
    refine ⟨t, ht, ?_, ?_⟩
    · rw [exists_mem_firsts]
      refine exists_congr fun e => ?_
      rw [mem_kept]
      constructor
      · intro h
        exact ⟨h.1.1, h.2, (isKept_iff ht h.2).mp h.1.2⟩
      · intro h
        exact ⟨⟨h.1, (isKept_iff ht h.2.1).mpr h.2.2⟩, h.2.1⟩
    · intro e he hid
      have hkept := (mem_kept.mp ((firsts_sublist sources).subset he)).2
      refine ⟨(isKept_iff ht hid).mp hkept, ?_⟩
      intro e' hout hid' hbehind
      exact first_of_mem_firsts he hid e' (mem_kept.mpr ⟨hout, (isKept_iff ht hid').mpr hbehind⟩) hid'

/-- The same segment comes twice, and in between one of its documents is removed, so that this one is
kept from the second time and the other one from the first. -/
theorem build_keeps_first_letters :
    ∃ d c, build .listed 7 [letters [97, 98] [], letters [99] [97], letters [97, 98] []] = .ok d ∧
      Immutable.openData KeyFormat.listed.decode? d = .ok ⟨some c⟩ ∧
      c.allDocuments = .ok [Session.letter 98, Session.letter 99, Session.letter 97] ∧
      c.document 9 = .ok (Session.letter 97) ∧
      ∃ e : Entry, HandsOut [letters [97, 98] [], letters [99] [97], letters [97, 98] []] e ∧
        e.document = Session.letter 97 ∧ 1 < e.source := by
  have hmade : ∀ source ∈ [letters [97, 98] [], letters [99] [97], letters [97, 98] []],
      source.Made .listed := by
    simp [Source.made_letters]
  have haddressable :
      (write .listed 7 [Session.letter 98, Session.letter 99, Session.letter 97]).Addressable := by
    decide +kernel
  obtain ⟨c, stored, hc, -, -, hmerge, hall, hdocument, -, hstored, -, hids⟩ :=
    build_keeps_first hmade (rfl : build .listed 7 _ = _) haddressable
  have hletters : stored.map Entry.document =
      [Session.letter 98, Session.letter 99, Session.letter 97] := Except.ok.inj (hmerge.symm.trans rfl)
  rw [hletters] at hall
  have hlast : (stored.map Entry.document)[2]? = some (Session.letter 97) := by
    rw [hletters]
    rfl
  rw [List.getElem?_map, Option.map_eq_some_iff] at hlast
  obtain ⟨e, he, hletter⟩ := hlast
  have hthird := (hdocument 2 e he).2
  rw [hletter] at hthird
  have hmem := List.mem_of_getElem? he
  refine ⟨_, c, rfl, hc, hall, hthird, e, (hstored e hmem).1, hletter, ?_⟩
  obtain ⟨t, ht, -, hfirst⟩ := hids [97]
  have hbehind := (hfirst e hmem (by rw [Entry.id, hletter]; rfl)).1
  have htombstone : [97] ∈ (letters [99] [97]).tombstones := by decide +kernel
  cases t with
  | none => exact absurd htombstone (ht _ (by simp))
  | some t =>
    have hle : 1 ≤ t := by
      by_contra hlt
      exact ht.2 1 (letters [99] [97]) (by omega) rfl htombstone
    exact Nat.lt_of_le_of_lt hle hbehind

end Build

end InvertedIndex.Segment
