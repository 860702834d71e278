import InvertedIndex.Document

namespace InvertedIndex

open Std (TransCmp OrientedCmp LawfulEqCmp)

namespace Field

instance : TransCmp compare :=
  inferInstanceAs (TransCmp (compareLex (compareOn name) (compareOn value)))

instance : LawfulEqCmp compare where
  eq_of_compare {f g} h := by
    have hparts : f.name = g.name ∧ f.value = g.value := by
      simpa only [compare, compareLex, compareOn, Ordering.then_eq_eq, Std.compare_eq_iff_eq] using h
    cases f
    cases g
    rw [Field.mk.injEq]
    exact hparts

end Field

namespace Document

theorem isLE_or_isLE {α : Type} {cmp : α → α → Ordering} [OrientedCmp cmp] (a b : α) :
    (cmp a b).isLE = true ∨ (cmp b a).isLE = true := by
  have hswap : cmp b a = (cmp a b).swap := OrientedCmp.eq_swap
  rw [hswap]
  cases cmp a b <;> simp

/-- Sorting loses no field. -/
theorem perm_sortedFields (d : Document) : d.sortedFields.Perm d.fields :=
  List.mergeSort_perm d.fields _

theorem ascending_sortedFields (d : Document) :
    d.sortedFields.Pairwise fun f g => (f.compare g).isLE = true := by
  apply List.pairwise_mergeSort
  · exact fun f g h => TransCmp.isLE_trans
  · intro f g
    rw [Bool.or_eq_true]
    exact isLE_or_isLE f g

/-- Only equal fields stand for each other in order, so the order of the fields leaves no choice. -/
theorem sortedFields_eq_iff {d e : Document} :
    d.sortedFields = e.sortedFields ↔ d.fields.Perm e.fields := by
  constructor
  · intro h
    have hd := d.perm_sortedFields
    rw [h] at hd
    exact hd.symm.trans e.perm_sortedFields
  · intro h
    apply List.Perm.eq_of_pairwise ?_ d.ascending_sortedFields e.ascending_sortedFields
    · exact d.perm_sortedFields.trans (h.trans e.perm_sortedFields.symm)
    · intro f g _ _ hfg hgf
      exact LawfulEqCmp.eq_of_compare (OrientedCmp.isLE_antisymm hfg hgf)

/-- Two documents are the same if they have the same identifier and the same fields, each as often. -/
theorem same_iff {d e : Document} :
    d.same e = true ↔ d.id = e.id ∧ d.fields.Perm e.fields := by
  simp only [same, Bool.and_eq_true, decide_eq_true_iff, sortedFields_eq_iff]
  constructor
  · rintro ⟨⟨hid, -⟩, hfields⟩
    exact ⟨hid, hfields⟩
  · rintro ⟨hid, hfields⟩
    exact ⟨⟨hid, hfields.length_eq⟩, hfields⟩

/-- The fields alone, compared one after the other. -/
def compareFields (d e : Document) : Ordering :=
  List.compareLex Field.compare d.sortedFields e.sortedFields

instance : TransCmp compareFields where
  eq_swap := by
    intro d e
    rw [compareFields, compareFields]
    exact OrientedCmp.eq_swap
  isLE_trans := by
    intro d e f hde hef
    rw [compareFields] at hde hef ⊢
    exact TransCmp.isLE_trans hde hef

instance : TransCmp compare :=
  inferInstanceAs (TransCmp (compareLex (compareOn id) compareFields))

/-- The order takes for equal just what is the same. -/
theorem compare_eq_iff {d e : Document} : d.compare e = .eq ↔ d.same e = true := by
  rw [same_iff, compare, Ordering.then_eq_eq, Std.compare_eq_iff_eq, LawfulEqCmp.compare_eq_iff_eq,
    sortedFields_eq_iff]

/-- The order depends on nothing but what makes documents the same. -/
theorem compare_congr {d d' e e' : Document} (hd : d.same d' = true) (he : e.same e' = true) :
    d'.compare e' = d.compare e := by
  obtain ⟨hid, hfields⟩ := same_iff.mp hd
  obtain ⟨hid', hfields'⟩ := same_iff.mp he
  rw [compare, compare, hid, hid', sortedFields_eq_iff.mpr hfields, sortedFields_eq_iff.mpr hfields']

theorem same_congr {d d' e e' : Document} (hd : d.same d' = true) (he : e.same e' = true) :
    d'.same e' = d.same e := by
  rw [Bool.eq_iff_iff, ← compare_eq_iff, ← compare_eq_iff, compare_congr hd he]

/-- Documents are equal if they have the same identifier and the same fields, each as often, and the order
is total up to this equality. In what order the fields of either document come makes no difference. -/
theorem compared_as_multisets (a b c : Document) :
    (a.same b = true ↔ a.id = b.id ∧ a.fields.Perm b.fields) ∧
    (a.compare b = .eq ↔ a.same b = true) ∧
    b.compare a = (a.compare b).swap ∧
    ((a.compare b).isLE = true → (b.compare a).isLE = true → a.same b = true) ∧
    ((a.compare b).isLE = true → (b.compare c).isLE = true → (a.compare c).isLE = true) ∧
    ((a.compare b).isLE = true ∨ (b.compare a).isLE = true) ∧
    a.compare? b = some (a.compare b) ∧
    ∀ fs gs : List Field, a.fields.Perm fs → b.fields.Perm gs →
      Document.same { a with fields := fs } { b with fields := gs } = a.same b ∧
      Document.compare { a with fields := fs } { b with fields := gs } = a.compare b ∧
      Document.compare? { a with fields := fs } { b with fields := gs } = a.compare? b := by
  refine ⟨same_iff, compare_eq_iff, OrientedCmp.eq_swap, ?_, TransCmp.isLE_trans, isLE_or_isLE a b,
    rfl, ?_⟩
  · intro hab hba
    exact compare_eq_iff.mp (OrientedCmp.isLE_antisymm hab hba)
  · intro fs gs hfs hgs
    have ha : a.same { a with fields := fs } = true := same_iff.mpr ⟨rfl, hfs⟩
    have hb : b.same { b with fields := gs } = true := same_iff.mpr ⟨rfl, hgs⟩
    have hcompare := compare_congr ha hb
    exact ⟨same_congr ha hb, hcompare, congrArg some hcompare⟩

/-- A field that is there twice counts twice. -/
theorem compared_as_multisets_twice :
    ∃ f g : Field, Document.same ⟨none, [f, g, f]⟩ ⟨none, [g, f, f]⟩ = true ∧
      Document.compare ⟨none, [f, g, f]⟩ ⟨none, [g, f, f]⟩ = .eq ∧
      Document.same ⟨none, [f, g, f]⟩ ⟨none, [g, f, g]⟩ = false := by
  obtain ⟨hsame, hcompare, -⟩ := compared_as_multisets
    ⟨none, [⟨[97], []⟩, ⟨[98], []⟩, ⟨[97], []⟩]⟩ ⟨none, [⟨[98], []⟩, ⟨[97], []⟩, ⟨[97], []⟩]⟩
    ⟨none, []⟩
  obtain ⟨hother, -⟩ := compared_as_multisets
    ⟨none, [⟨[97], []⟩, ⟨[98], []⟩, ⟨[97], []⟩]⟩ ⟨none, [⟨[98], []⟩, ⟨[97], []⟩, ⟨[98], []⟩]⟩
    ⟨none, []⟩
  have heq := hsame.mpr ⟨rfl, by decide⟩
  refine ⟨⟨[97], []⟩, ⟨[98], []⟩, heq, hcompare.mpr heq, eq_false_of_ne_true fun h => ?_⟩
  exact absurd (hother.mp h).2 (by decide)

end Document

end InvertedIndex
