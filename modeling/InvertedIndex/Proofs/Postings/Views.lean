import InvertedIndex.Proofs.Postings.Sets

namespace InvertedIndex

namespace Boundaries

theorem head?_members {bs : List Nat} (h : Ascending bs) (hend : atEnd false bs = false) :
    (members bs).head? = bs.head? := by
  fun_cases runs bs with
  | case1 lo hi rest =>
    have hlt : lo < hi := (List.pairwise_cons.mp h).1 hi (by simp)
    have hpos : hi - lo ≠ 0 := by omega
    rw [members_cons_cons, List.head?_append, List.head?_range', if_neg hpos]
    rfl
  | case2 bs hne =>
    cases bs with
    | nil => rfl
    | cons lo bs =>
      cases bs with
      | nil => simp at hend
      | cons hi rest => exact absurd rfl (hne lo hi rest)

theorem getLast?_members {bs : List Nat} (h : Ascending bs) (hend : atEnd false bs = false) :
    (members bs).getLast? = bs.getLast?.map (· - 1) := by
  fun_induction runs bs with
  | case1 lo hi rest ih =>
    obtain ⟨hlo, h⟩ := List.pairwise_cons.mp h
    have hlt : lo < hi := hlo hi (by simp)
    have hpos : hi - lo ≠ 0 := by omega
    have hlast : lo + (hi - lo) - 1 = hi - 1 := by omega
    rw [members_cons_cons, List.getLast?_append, ih (List.pairwise_cons.mp h).2 hend,
      List.getLast?_range', if_neg hpos, List.getLast?_cons, List.getLast?_cons]
    cases rest.getLast? <;> simp [hlast]
  | case2 bs hne =>
    cases bs with
    | nil => rfl
    | cons lo bs =>
      cases bs with
      | nil => simp at hend
      | cons hi rest => exact absurd rfl (hne lo hi rest)

end Boundaries

namespace Postings

variable {p : Postings} {s : Finset PostingsId}

theorem Lows.head?_toList (l : Lows) : l.toList.head? = l.least? :=
  Boundaries.head?_members l.ascending l.isFinite

theorem Lows.getLast?_toList (l : Lows) : l.toList.getLast? = l.greatest? :=
  Boundaries.getLast?_members l.ascending l.isFinite

theorem Block.ids_ne_nil {b : Block} (h : b.Canonical) : b.ids ≠ [] := by
  have hpos := h.size_pos
  rw [size, ← Lows.length_toList] at hpos
  rw [ids, Ne, List.map_eq_nil_iff]
  exact List.ne_nil_of_length_pos hpos

/-- The least member is the first one that is listed. -/
theorem least?_eq (h : p.Canonical) : p.least? = p.toList.head? := by
  rw [least?, toList_eq_flatMap]
  cases hblocks : p.blocks with
  | nil => rfl
  | cons b bs =>
    have hne := Block.ids_ne_nil (h.blocks b (by simp [hblocks]))
    rw [List.flatMap_cons, List.head?_append_of_ne_nil _ hne, Block.ids, List.head?_map,
      Lows.head?_toList]
    rfl

theorem greatest?_eq (h : p.Canonical) : p.greatest? = p.toList.getLast? := by
  rw [greatest?, toList_eq_flatMap]
  rcases List.eq_nil_or_concat p.blocks with hblocks | ⟨bs, b, hblocks⟩
  · rw [hblocks]
    rfl
  · have hne := Block.ids_ne_nil (h.blocks b (by simp [hblocks]))
    rw [hblocks, List.concat_eq_append, List.flatMap_append, List.flatMap_singleton,
      List.getLast?_append_of_ne_nil _ hne, Block.ids, List.getLast?_map, Lows.getLast?_toList,
      List.getLast?_concat]
    rfl

theorem Represents.isEmpty_iff (h : p.Represents s) : p.isEmpty = true ↔ s = ∅ := by
  rw [← h.eq_iff represents_empty, isEmpty, List.isEmpty_iff]
  obtain ⟨blocks⟩ := p
  exact ⟨fun heq => congrArg Postings.mk heq, fun heq => congrArg Postings.blocks heq⟩

theorem Represents.toList_eq_nil_iff (h : p.Represents s) : p.toList = [] ↔ s = ∅ := by
  rw [← Finset.card_eq_zero, ← h.size_eq, ← length_toList, List.length_eq_zero_iff]

/-- The least member is below all others. -/
theorem Represents.least_eq_ok (h : p.Represents s) {id : PostingsId} :
    p.least = .ok id ↔ id ∈ s ∧ ∀ x ∈ s, id ≤ x := by
  have hascending := h.ascending
  simp only [← h.mem_toList]
  rw [least, least?_eq h.canonical]
  generalize p.toList = ids at hascending ⊢
  cases ids with
  | nil => simp
  | cons first rest =>
    obtain ⟨hfirst, -⟩ := List.pairwise_cons.mp hascending
    have hle : ∀ x ∈ first :: rest, first ≤ x := by
      intro x hx
      cases List.mem_cons.mp hx with
      | inl hx => exact hx ▸ UInt32.le_refl x
      | inr hx => exact UInt32.le_of_lt (hfirst x hx)
    simp only [List.head?_cons, Except.ok.injEq]
    constructor
    · rintro rfl
      exact ⟨List.mem_cons_self, hle⟩
    · rintro ⟨hid, hmin⟩
      exact UInt32.le_antisymm (hle id hid) (hmin first List.mem_cons_self)

theorem Represents.greatest_eq_ok (h : p.Represents s) {id : PostingsId} :
    p.greatest = .ok id ↔ id ∈ s ∧ ∀ x ∈ s, x ≤ id := by
  have hascending := h.ascending
  simp only [← h.mem_toList]
  rw [greatest, greatest?_eq h.canonical]
  rcases List.eq_nil_or_concat p.toList with hids | ⟨rest, last, hids⟩
  · simp [hids]
  · rw [hids, List.concat_eq_append] at hascending ⊢
    obtain ⟨-, -, hlast⟩ := List.pairwise_append.mp hascending
    have hle : ∀ x ∈ rest ++ [last], x ≤ last := by
      intro x hx
      cases List.mem_append.mp hx with
      | inl hx => exact UInt32.le_of_lt (hlast x hx last (by simp))
      | inr hx => exact List.mem_singleton.mp hx ▸ UInt32.le_refl last
    simp only [List.getLast?_concat, Except.ok.injEq]
    constructor
    · rintro rfl
      exact ⟨by simp, hle⟩
    · rintro ⟨hid, hmax⟩
      exact UInt32.le_antisymm (hmax last (by simp)) (hle id hid)

/-- Only an empty list has no least member. -/
theorem Represents.least_eq_error (h : p.Represents s) {e : Error} :
    p.least = .error e ↔ s = ∅ ∧ e = .emptyPostings := by
  rw [← h.toList_eq_nil_iff, least, least?_eq h.canonical]
  cases p.toList <;> simp [eq_comm]

theorem Represents.greatest_eq_error (h : p.Represents s) {e : Error} :
    p.greatest = .error e ↔ s = ∅ ∧ e = .emptyPostings := by
  rw [← h.toList_eq_nil_iff, greatest, greatest?_eq h.canonical, ← List.getLast?_eq_none_iff]
  cases p.toList.getLast? <;> simp [eq_comm]

/-- After `n` steps a walk has handed out the first of these numbers, and says how many are left. -/
def Walk.Remains (p : Postings) (ids : List PostingsId) (n : Nat) : Prop :=
  (p.walk.take n).1 = ids.take n ∧
    (p.walk.take n).2.sizeHint = (ids.length - n, some (ids.length - n))

/-- The list shows just this set: in order, in walks of any length and to any action. -/
structure Shows (p : Postings) (s : Finset PostingsId) : Prop where
  contains : ∀ id, p.contains id = decide (id ∈ s)
  size : p.size = s.card
  isEmpty : p.isEmpty = decide (s = ∅)
  least : ∀ id, p.least = .ok id ↔ id ∈ s ∧ ∀ x ∈ s, id ≤ x
  greatest : ∀ id, p.greatest = .ok id ↔ id ∈ s ∧ ∀ x ∈ s, x ≤ id
  least_none : ∀ e, p.least = .error e ↔ s = ∅ ∧ e = .emptyPostings
  greatest_none : ∀ e, p.greatest = .error e ↔ s = ∅ ∧ e = .emptyPostings
  ordered : ∃ ids : List PostingsId, ids.Pairwise (· < ·) ∧ (∀ id, id ∈ ids ↔ id ∈ s) ∧
    (∀ n, Walk.Remains p ids n) ∧
    ∀ {σ ε : Type} (f : σ → PostingsId → σ × Except ε Unit) (t : σ),
      Ends f t ids (p.tryForEach f t)

/-- Whatever a list shows of itself is read off its set. -/
theorem Represents.shows (h : p.Represents s) : p.Shows s where
  contains id := by
    rw [Bool.eq_iff_iff, decide_eq_true_iff, h.mem_iff]
  size := h.size_eq
  isEmpty := by
    rw [Bool.eq_iff_iff, decide_eq_true_iff, h.isEmpty_iff]
  least _ := h.least_eq_ok
  greatest _ := h.greatest_eq_ok
  least_none _ := h.least_eq_error
  greatest_none _ := h.greatest_eq_error
  ordered := by
    refine ⟨p.toList, h.ascending, fun _ => h.mem_toList, fun n => ?_, fun f t => ends_visit f t _⟩
    obtain ⟨htaken, hleft⟩ := Walk.take_eq n p.walk
    rw [left_walk] at htaken hleft
    refine ⟨htaken, ?_⟩
    rw [Walk.sizeHint_eq, hleft, List.length_drop]

end Postings

end InvertedIndex
