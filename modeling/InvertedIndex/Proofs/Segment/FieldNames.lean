import InvertedIndex.Proofs.Dictionary.Strategies
import InvertedIndex.Proofs.Segment.Build

namespace InvertedIndex.Segment

open Document (separatorBytes IsPlain)
open Mutable (termsOf logOf)

/-- The names of all terms of some documents, in ascending order. -/
def Mutable.namesOf (ds : List Document) : List Bytes :=
  Bytes.sorted ((ds.flatMap termsOf).map Field.name)

open Mutable (namesOf)

theorem Mutable.mem_namesOf {ds : List Document} {x : Bytes} :
    x ∈ namesOf ds ↔ ∃ d ∈ ds, ∃ f ∈ termsOf d, f.name = x := by
  simp only [namesOf, Bytes.mem_sorted, List.mem_map, List.mem_flatMap]
  constructor
  · rintro ⟨f, ⟨d, hd, hf⟩, hname⟩
    exact ⟨d, hd, f, hf, hname⟩
  · rintro ⟨d, hd, f, hf, hname⟩
    exact ⟨f, ⟨d, hd, hf⟩, hname⟩

/-- Documents with identifiers have the names of their fields and the name for identifiers. -/
theorem Mutable.mem_namesOf_iff {ds : List Document} (hid : ∀ d ∈ ds, d.id.isSome = true)
    {x : Bytes} : x ∈ namesOf ds ↔
      (∃ d ∈ ds, ∃ f ∈ d.fields, f.name = x) ∨ ds ≠ [] ∧ x = Document.idField := by
  rw [mem_namesOf]
  constructor
  · rintro ⟨d, hd, f, hf, hname⟩
    rcases List.mem_append.mp hf with hf | hf
    · exact .inl ⟨d, hd, f, hf, hname⟩
    · obtain ⟨id, -, rfl⟩ := List.mem_map.mp hf
      exact .inr ⟨List.ne_nil_of_mem hd, hname.symm⟩
  · rintro (⟨d, hd, f, hf, hname⟩ | ⟨hne, rfl⟩)
    · exact ⟨d, hd, f, List.mem_append_left _ hf, hname⟩
    · obtain ⟨d, hd⟩ := List.exists_mem_of_ne_nil ds hne
      obtain ⟨id, hsome⟩ := Option.isSome_iff_exists.mp (hid d hd)
      exact ⟨d, hd, ⟨Document.idField, id⟩, by simp [termsOf, hsome], rfl⟩

theorem Mutable.isPlain_of_mem_namesOf {ds : List Document} (hvalid : ∀ d ∈ ds, d.validate = .ok ())
    {x : Bytes} (hx : x ∈ namesOf ds) : IsPlain x := by
  obtain ⟨d, hd, f, hf, rfl⟩ := mem_namesOf.mp hx
  exact (Mutable.isPlain_termsOf (hvalid d hd) hf).1

theorem Mutable.exists_mem_logOf_iff_mem_namesOf {base : PostingsId} {ds : List Document} {x : Bytes} :
    (∃ id value, (id, ⟨x, value⟩) ∈ logOf base ds) ↔ x ∈ namesOf ds := by
  simp only [mem_namesOf, Mutable.mem_logOf]
  constructor
  · rintro ⟨-, value, i, d, hd, -, hf⟩
    exact ⟨d, List.mem_of_getElem? hd, ⟨x, value⟩, hf, rfl⟩
  · rintro ⟨d, hd, f, hf, rfl⟩
    obtain ⟨i, hi⟩ := List.mem_iff_getElem?.mp hd
    exact ⟨_, f.value, i, d, hi, rfl, hf⟩

/-- A segment that takes in documents lists its names in ascending order, under either strategy. -/
theorem Mutable.Represents.fieldNames_eq {s : Mutable} {ds : List Document} (h : s.Represents ds) :
    s.dictionary.fieldNames = namesOf ds := by
  apply s.dictionary.entries.fields.ascending.eq_of_mem_iff (Bytes.ascending_sorted _)
  intro x
  have hfield : s.dictionary.containsField x = true ↔ _ := Dictionary.containsField_iff h.dictionary
  exact ByteMap.mem_keys_iff.trans (hfield.trans exists_mem_logOf_iff_mem_namesOf)

namespace Contents

theorem mem_dropRepeats {xs : List Bytes} {x : Bytes} : x ∈ dropRepeats xs ↔ x ∈ xs := by
  fun_induction dropRepeats xs with
  | case1 y rest ih => simp [ih]
  | case2 y z rest hne ih => rw [List.mem_cons, ih, ← List.mem_cons]
  | case3 xs hxs => rfl

/-- Repeats that stand together are left out. -/
theorem ascending_dropRepeats {xs : List Bytes}
    (h : xs.Pairwise fun x y => x = y ∨ Key.start x < Key.start y) :
    (dropRepeats xs).Pairwise fun x y => Key.start x < Key.start y := by
  fun_induction dropRepeats xs with
  | case1 y rest ih => exact ih (List.pairwise_cons.mp h).2
  | case2 y z rest hne ih =>
    obtain ⟨hy, hrest⟩ := List.pairwise_cons.mp h
    refine List.pairwise_cons.mpr ⟨?_, ih hrest⟩
    intro x hx
    have hx := mem_dropRepeats.mp hx
    -- A name that came back behind another one would be both before and after it.
    rcases hy x hx with rfl | hlt
    · rcases hy z List.mem_cons_self with hyz | hyz
      · exact absurd hyz hne
      · rcases List.mem_cons.mp hx with hxz | hx
        · exact absurd hxz hne
        · rcases (List.pairwise_cons.mp hrest).1 y hx with hzy | hzy
          · exact absurd hzy.symm hne
          · exact absurd hyz (List.lt_asymm hzy)
    · exact hlt
  | case3 xs hxs =>
    match xs, hxs with
    | [], _ => exact List.Pairwise.nil
    | [x], _ => exact List.pairwise_singleton _ _
    | x :: y :: rest, hxs => exact absurd rfl (hxs x y rest)

variable {c : Contents} {base : PostingsId} {ds : List Document}

/-- The names are those of the documents, in the order of the names with the separator. -/
theorem Represents.fieldNames_eq (h : c.Represents base ds) :
    ∃ names, c.fieldNames = .ok names ∧ (∀ x, x ∈ names ↔ x ∈ namesOf ds) ∧
      names.Pairwise fun x y => Key.start x < Key.start y := by
  have hkey : ∀ key ∈ c.keys.keys, ∃ f : Field, key = Key.encode f.name f.value ∧
      (∃ id, (id, f) ∈ logOf base ds) ∧ Key.split? key = some (f.name, f.value) := by
    intro key hkey
    obtain ⟨⟨key, stop⟩, hentry, rfl⟩ := List.mem_map.mp hkey
    obtain ⟨f, rfl, ⟨id, hid⟩, -⟩ := h.entry key stop hentry
    obtain ⟨hname, -⟩ := not_isInfix_of_mem_logOf h.valid hid
    exact ⟨f, rfl, ⟨id, hid⟩, Key.split?_encode hname f.value⟩
  have hdecode : c.keys.keys.mapM Key.decode = .ok (c.keys.keys.filterMap Key.split?) := by
    apply Results.mapM_eq_ok
    intro key hmem
    obtain ⟨f, -, -, hsplit⟩ := hkey key hmem
    exact ⟨_, hsplit, by rw [Key.decode, hsplit]⟩
  refine ⟨_, by rw [fieldNames, hdecode]; rfl, ?_, ascending_dropRepeats ?_⟩
  · intro x
    have hlog : (∃ id value, (id, ⟨x, value⟩) ∈ logOf base ds) ↔ x ∈ namesOf ds :=
      Mutable.exists_mem_logOf_iff_mem_namesOf
    rw [mem_dropRepeats, ← hlog, List.mem_map]
    constructor
    · rintro ⟨part, hpart, rfl⟩
      obtain ⟨key, hmem, hsome⟩ := List.mem_filterMap.mp hpart
      obtain ⟨f, -, ⟨id, hid⟩, hsplit⟩ := hkey key hmem
      rw [hsplit] at hsome
      rw [← Option.some.inj hsome]
      exact ⟨id, f.value, hid⟩
    · rintro ⟨id, value, hid⟩
      have hmem := ByteMap.mem_keys_iff.mpr ((h.mem_keys ⟨x, value⟩).mpr ⟨id, hid⟩)
      obtain ⟨hname, -⟩ := not_isInfix_of_mem_logOf h.valid hid
      exact ⟨(x, value), List.mem_filterMap.mpr ⟨_, hmem, Key.split?_encode hname value⟩, rfl⟩
  · rw [List.pairwise_map, List.pairwise_filterMap]
    refine List.Pairwise.imp_of_mem ?_ c.keys.ascending
    intro key key' hmem hmem' hlt part hpart part' hpart'
    obtain ⟨f, rfl, ⟨id, hid⟩, hsplit⟩ := hkey key hmem
    obtain ⟨g, rfl, ⟨id', hid'⟩, hsplit'⟩ := hkey key' hmem'
    obtain rfl : (f.name, f.value) = part := Option.some.inj (hsplit.symm.trans hpart)
    obtain rfl : (g.name, g.value) = part' := Option.some.inj (hsplit'.symm.trans hpart')
    obtain ⟨hf, hv⟩ := not_isInfix_of_mem_logOf h.valid hid
    obtain ⟨hg, hw⟩ := not_isInfix_of_mem_logOf h.valid hid'
    exact Key.eq_or_start_lt_of_encode_lt hf hv hg hw hlt

/-- No name goes on from another one with a character before the separator. -/
def ContinuedBehind (names : List Bytes) : Prop :=
  ∀ x ∈ names, ∀ y ∈ names, x <+: y → x = y ∨ separatorBytes < y.drop x.length

instance (names : List Bytes) : Decidable (ContinuedBehind names) :=
  inferInstanceAs (Decidable (∀ x ∈ names, ∀ y ∈ names,
    x <+: y → x = y ∨ separatorBytes < y.drop x.length))

/-- Where names are in both orders at once, the orders agree. -/
theorem start_lt_of_lt {names : List Bytes} (hascending : Bytes.Ascending names)
    (horder : names.Pairwise fun x y => Key.start x < Key.start y) {x y : Bytes} (hx : x ∈ names)
    (hy : y ∈ names) (h : x < y) : Key.start x < Key.start y := by
  have hfirst : names.Pairwise fun x y => x < y → Key.start x < Key.start y := by
    apply horder.imp
    intro x y hstart _
    exact hstart
  have hlast : names.Pairwise (flip fun x y => x < y → Key.start x < Key.start y) := by
    apply hascending.imp
    intro x y hlt hgt
    exact absurd hgt (List.lt_asymm hlt)
  have hself : ∀ x ∈ names, x < x → Key.start x < Key.start x :=
    fun x _ hlt => absurd hlt (List.lt_irrefl x)
  exact hfirst.forall_of_forall_of_flip hself hlast hx hy h

/-- Names in the order of their keys are in ascending order if none goes on before the separator. -/
theorem eq_namesOf_iff (hvalid : ∀ d ∈ ds, d.validate = .ok ()) {names : List Bytes}
    (hmem : ∀ x, x ∈ names ↔ x ∈ namesOf ds)
    (horder : names.Pairwise fun x y => Key.start x < Key.start y) :
    names = namesOf ds ↔ ContinuedBehind (namesOf ds) := by
  constructor
  · intro heq x hx y hy hprefix
    obtain ⟨z, rfl⟩ := hprefix
    cases z with
    | nil => exact .inl (List.append_nil x).symm
    | cons b z =>
      have hlonger : x ++ [] < x ++ b :: z := List.append_left_lt (List.nil_lt_cons b z)
      rw [List.append_nil] at hlonger
      have hascending : Bytes.Ascending (namesOf ds) := Bytes.ascending_sorted _
      have hstart := start_lt_of_lt hascending (heq ▸ horder) hx hy hlonger
      rcases Key.separator_lt_of_start_lt (Mutable.isPlain_of_mem_namesOf hvalid hx)
        (Mutable.isPlain_of_mem_namesOf hvalid hy) hstart with hnil | hafter
      · cases hnil
      · rw [List.drop_left]
        exact .inr hafter
  · intro hbehind
    have hascending : Bytes.Ascending names := by
      refine List.Pairwise.imp_of_mem ?_ horder
      intro x y hx hy hstart
      apply Key.lt_of_start_lt hstart
      rintro z rfl
      have hz := hbehind y ((hmem y).mp hy) _ ((hmem _).mp hx) ⟨z, rfl⟩
      rwa [List.drop_left, List.self_eq_append_right] at hz
    exact hascending.eq_of_mem_iff (Bytes.ascending_sorted _) hmem

open Build (build merge)

/-- An immutable segment lists the names of its documents' fields, and the name for identifiers if
there are any documents, each once. It does so in the order of its keys, which is the ascending one
just when no name goes on from another one with a character before the separator. An open segment that
takes in documents and holds the same ones lists these names in ascending order. -/
theorem fieldNames_built {format : KeyFormat} {base : PostingsId} {sources : List Source}
    (hmade : ∀ source ∈ sources, source.Made format) {d : Data}
    (hd : build format base sources = .ok d) (hsize : d.Addressable) :
    ∃ ds c names, merge sources = .ok ds ∧ Immutable.openData format.decode? d = .ok ⟨some c⟩ ∧
      (⟨some c⟩ : Immutable).query fieldNames = .ok names ∧
      Bytes.Ascending (namesOf ds) ∧
      (∀ x, x ∈ namesOf ds ↔
        (∃ d ∈ ds, ∃ f ∈ d.fields, f.name = x) ∨ ds ≠ [] ∧ x = Document.idField) ∧
      names.Perm (namesOf ds) ∧ (names.Pairwise fun x y => Key.start x < Key.start y) ∧
      (names = namesOf ds ↔ ContinuedBehind (namesOf ds)) ∧
      ∀ (options : Options) (generator : Nat → Bytes) (ops : List Session.Op) (s : Mutable),
        s = ((Session.new options generator).run ops).segment → s.committed = .ok ds →
        s.isClosed = false → s.query (fun d => .ok d.fieldNames) = .ok (namesOf ds) := by
  have hands := fun source hs => Build.hands_of_made (hmade source hs)
  obtain ⟨ds, hds, hsound, hopened, hc⟩ := Build.opened_of_build hands hd hsize
  obtain ⟨names, hnames, hmem, horder⟩ := hc.fieldNames_eq
  have hascending : Bytes.Ascending (namesOf ds) := Bytes.ascending_sorted _
  refine ⟨ds, Build.contentsOf format base ds, names, hds, hopened, hnames, hascending,
    fun x => Mutable.mem_namesOf_iff hc.identified, ?_, horder, eq_namesOf_iff hc.valid hmem horder,
    ?_⟩
  · have honce : names.Nodup := horder.imp fun h heq => by
      rw [heq] at h
      exact List.lt_irrefl _ h
    exact (List.perm_ext_iff_of_nodup honce (hascending.imp Std.ne_of_lt)).mpr hmem
  · rintro options generator ops s rfl hcommitted hopen
    obtain ⟨docs, hdocs⟩ := Session.represents_run_new options generator ops
    obtain rfl : docs = ds := Except.ok.inj (hdocs.committed_eq.symm.trans hcommitted)
    rw [Mutable.query, Mutable.checkOpen, hopen, ← hdocs.fieldNames_eq]
    rfl

/-- Of the two names none begins the other. -/
theorem fieldNames_built_letter :
    ∃ d c, build .listed 7 [.letters [97] []] = .ok d ∧
      Immutable.openData KeyFormat.listed.decode? d = .ok ⟨some c⟩ ∧
      (⟨some c⟩ : Immutable).query fieldNames = .ok [Document.idField, Bytes.ofText "n"] ∧
      ∃ s, s = ((Session.new ⟨0, 5, .exact⟩ fun _ => []).run [.insert (Session.letter 97)]).segment ∧
        s.query (fun d => .ok d.fieldNames) = .ok [Document.idField, Bytes.ofText "n"] := by
  have hmade : ∀ source ∈ [Source.letters [97] []], source.Made .listed := by simp [Source.made_letters]
  have haddressable : (Build.write .listed 7 [Session.letter 97]).Addressable := by decide +kernel
  obtain ⟨ds, c, names, hds, hc, hquery, -, -, -, -, horder, hsession⟩ :=
    fieldNames_built (d := Build.write .listed 7 [Session.letter 97]) hmade (rfl : build .listed 7 _ = _) haddressable
  obtain rfl : ds = [Session.letter 97] := Except.ok.inj (hds.symm.trans rfl)
  have hnames : namesOf [Session.letter 97] = [Document.idField, Bytes.ofText "n"] := by decide +kernel
  have hbehind : ContinuedBehind (namesOf [Session.letter 97]) := by
    rw [hnames]
    decide +kernel
  rw [horder.mpr hbehind, hnames] at hquery
  refine ⟨_, c, rfl, hc, hquery, _, rfl, ?_⟩
  rw [← hnames]
  exact hsession ⟨0, 5, .exact⟩ (fun _ => []) [.insert (Session.letter 97)] _ rfl rfl rfl

/-- A document whose second field has a name that goes on from the name of the first. -/
def nested : Document :=
  ⟨some (Bytes.ofText "d"), [⟨Bytes.ofText "a", Bytes.ofText "v"⟩, ⟨Bytes.ofText "ab", Bytes.ofText "v"⟩]⟩

/-- The longer name comes first in what was built, and the shorter one in what it was built from. -/
theorem fieldNames_built_nested :
    ∃ s d c, s = ((Session.new ⟨0, 0, .exact⟩ fun _ => []).run [.insert nested, .sealSegment]).segment ∧
      s.query (fun d => .ok d.fieldNames) =
        .ok [Document.idField, Bytes.ofText "a", Bytes.ofText "ab"] ∧
      build .listed 1 [.fromMutable s] = .ok d ∧
      Immutable.openData KeyFormat.listed.decode? d = .ok ⟨some c⟩ ∧
      (⟨some c⟩ : Immutable).query fieldNames =
        .ok [Document.idField, Bytes.ofText "ab", Bytes.ofText "a"] :=
  ⟨_, Build.write .listed 1 [nested], Build.contentsOf .listed 1 [nested], rfl, rfl, rfl,
    Build.openData_write (by decide) (by decide +kernel), rfl⟩

end Contents

end InvertedIndex.Segment
