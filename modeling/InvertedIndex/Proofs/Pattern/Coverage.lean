import InvertedIndex.Proofs.Pattern.Spans

namespace InvertedIndex.Pattern

namespace Step

/-- What a step has been asked for and has told on its way from a blank trail to this one. -/
inductive History (f : Step) : Trail → List Nat → List Nat → Prop
  | blank : History f .blank [] []
  | ask {trail : Trail} {asked told : List Nat} (h : History f trail asked told) (ps : List Nat) :
    History f (f trail ps).2 (asked ++ ps) (told ++ (f trail ps).1)

/-- Of places up to `n`, a step has told all that the relation leads to from where it was asked. -/
def Covers (n : Nat) (R : Nat → Nat → Prop) (f : Step) : Prop :=
  ∀ trail asked told, History f trail asked told → (∀ i ∈ asked, i ≤ n) →
    ∀ i ∈ asked, ∀ j, R i j → j ∈ told

/-- The relation does not lead beyond place `n`. -/
def Bounded (n : Nat) (R : Nat → Nat → Prop) : Prop := ∀ i j, R i j → i ≤ n → j ≤ n

variable {n : Nat} {R S : Nat → Nat → Prop} {f g : Step} {trail : Trail} {asked told : List Nat}

/-- All that a step has told is at the end of something that it was asked. -/
theorem History.within (hf : Within R f) (h : History f trail asked told) :
    ∀ j ∈ told, ∃ i ∈ asked, R i j := by
  induction h with
  | blank => simp
  | @ask trail asked told h ps ih =>
    intro j hj
    cases List.mem_append.mp hj with
    | inl hj =>
      obtain ⟨i, hi, hR⟩ := ih j hj
      exact ⟨i, List.mem_append_left _ hi, hR⟩
    | inr hj =>
      obtain ⟨i, hi, hR⟩ := hf trail ps j hj
      exact ⟨i, List.mem_append_right _ hi, hR⟩

/-- What was told stays in bounds if what was asked is. -/
theorem History.told_le (hf : Within R f) (hR : Bounded n R) (h : History f trail asked told)
    (hasked : ∀ i ∈ asked, i ≤ n) : ∀ j ∈ told, j ≤ n := by
  intro j hj
  obtain ⟨i, hi, hij⟩ := h.within hf j hj
  exact hR i j hij (hasked i hi)

theorem Covers.mono (h : Covers n R f) (hSR : ∀ i j, S i j → R i j) : Covers n S f := by
  intro trail asked told hhistory hasked i hi j hS
  exact h trail asked told hhistory hasked i hi j (hSR i j hS)

/-- The first call, which has nothing to leave out. -/
theorem Covers.mem_of_blank (h : Covers n R f) {ps : List Nat} (hps : ∀ i ∈ ps, i ≤ n) {i j : Nat}
    (hi : i ∈ ps) (hij : R i j) : j ∈ (f .blank ps).1 := by
  have hhistory := History.ask (.blank : History f .blank [] []) ps
  rw [List.nil_append, List.nil_append] at hhistory
  exact h _ _ _ hhistory hps i hi j hij

/-- A step that always tells everything. -/
theorem covers_of_always (h : ∀ trail ps i j, i ∈ ps → R i j → j ∈ (f trail ps).1) :
    Covers n R f := by
  intro trail asked told hhistory
  have hall : ∀ i ∈ asked, ∀ j, R i j → j ∈ told := by
    induction hhistory with
    | blank => simp
    | @ask trail asked told _ ps ih =>
      intro i hi j hij
      cases List.mem_append.mp hi with
      | inl hi => exact List.mem_append_left _ (ih i hi j hij)
      | inr hi => exact List.mem_append_right _ (h trail ps i j hi hij)
  exact fun _ => hall

theorem covers_stay : Covers n Eq stay := by
  apply covers_of_always
  intro trail ps i j hi hij
  rwa [← hij]

theorem covers_ofPartial {p : Nat → Option Nat} :
    Covers n (fun i j => p i = some j) (ofPartial p) := by
  apply covers_of_always
  intro trail ps i j hi hij
  exact List.mem_filterMap.mpr ⟨i, hi, hij⟩

theorem covers_guard {test : Nat → Bool} :
    Covers n (fun i j => test i = true ∧ i = j) (guard test) := by
  apply covers_of_always
  intro trail ps i j hi hij
  obtain ⟨htest, rfl⟩ := hij
  exact List.mem_filter.mpr ⟨hi, htest⟩

/-- The trails of the two parts of a step. -/
def halves : Trail → Trail × Trail
  | .node _ (front :: back :: _) => (front, back)
  | _ => (.blank, .blank)

theorem andThen_eq (f g : Step) (trail : Trail) (ps : List Nat) :
    ∃ seen, andThen f g trail ps =
      ((g (halves trail).2 (f (halves trail).1 ps).1).1,
        .node seen [(f (halves trail).1 ps).2, (g (halves trail).2 (f (halves trail).1 ps).1).2]) := by
  obtain ⟨seen, parts⟩ := trail
  refine ⟨seen, ?_⟩
  match parts with
  | [] => rfl
  | [_] => rfl
  | front :: back :: _ => rfl

theorem orElse_eq (f g : Step) (trail : Trail) (ps : List Nat) :
    ∃ seen, orElse f g trail ps =
      ((f (halves trail).1 ps).1 ++ (g (halves trail).2 ps).1,
        .node seen [(f (halves trail).1 ps).2, (g (halves trail).2 ps).2]) := by
  obtain ⟨seen, parts⟩ := trail
  refine ⟨seen, ?_⟩
  match parts with
  | [] => rfl
  | [_] => rfl
  | front :: back :: _ => rfl

/-- What the first step told is what the second one was asked. -/
theorem History.andThen_iff (h : History (andThen f g) trail asked told) :
    ∃ middle, History f (halves trail).1 asked middle ∧ History g (halves trail).2 middle told := by
  induction h with
  | blank => exact ⟨[], .blank, .blank⟩
  | @ask trail asked told _ ps ih =>
    obtain ⟨middle, hf, hg⟩ := ih
    obtain ⟨seen, heq⟩ := andThen_eq f g trail ps
    rw [heq]
    exact ⟨_, hf.ask ps, hg.ask _⟩

/-- Two steps one after the other cover the composition of their relations: what the first one tells is
what the second one is asked. -/
theorem covers_andThen (hf : Covers n R f) (hg : Covers n S g) (hwithin : Within R f)
    (hbounded : Bounded n R) : Covers n (fun i j => ∃ k, R i k ∧ S k j) (andThen f g) := by
  intro trail asked told h hasked i hi j hij
  obtain ⟨k, hR, hS⟩ := hij
  obtain ⟨middle, hfirst, hsecond⟩ := h.andThen_iff
  have hk := hf _ _ _ hfirst hasked i hi k hR
  exact hg _ _ _ hsecond (hfirst.told_le hwithin hbounded hasked) k hk j hS

/-- Both parts of a choice were asked everything. -/
theorem History.orElse_iff (h : History (orElse f g) trail asked told) :
    ∃ left right, History f (halves trail).1 asked left ∧ History g (halves trail).2 asked right ∧
      ∀ j, j ∈ left ∨ j ∈ right → j ∈ told := by
  induction h with
  | blank => exact ⟨[], [], .blank, .blank, by simp⟩
  | @ask trail asked told _ ps ih =>
    obtain ⟨left, right, hf, hg, hall⟩ := ih
    obtain ⟨seen, heq⟩ := orElse_eq f g trail ps
    rw [heq]
    refine ⟨_, _, hf.ask ps, hg.ask ps, ?_⟩
    intro j hj
    have hold := hall j
    simp only [List.mem_append] at hj ⊢
    cases hj with
    | inl hj => exact hj.elim (fun hj => .inl (hold (.inl hj))) (fun hj => .inr (.inl hj))
    | inr hj => exact hj.elim (fun hj => .inl (hold (.inr hj))) (fun hj => .inr (.inr hj))

theorem covers_orElse (hf : Covers n R f) (hg : Covers n S g) :
    Covers n (fun i j => R i j ∨ S i j) (orElse f g) := by
  intro trail asked told h hasked i hi j hij
  obtain ⟨left, right, hleft, hright, hall⟩ := h.orElse_iff
  cases hij with
  | inl hij => exact hall j (.inl (hf _ _ _ hleft hasked i hi j hij))
  | inr hij => exact hall j (.inr (hg _ _ _ hright hasked i hi j hij))

theorem contains_foldl_visit {ps : List Nat} {v : Std.HashSet Nat × List Nat} {j : Nat} :
    (ps.foldl visit v).1.contains j = true ↔ v.1.contains j = true ∨ j ∈ ps := by
  induction ps generalizing v with
  | nil => simp
  | cons p ps ih =>
    have hcomm : p = j ↔ j = p := eq_comm
    rw [List.foldl_cons, ih, contains_visit, Bool.or_eq_true, beq_iff_eq, List.mem_cons, or_assoc,
      hcomm]

/-- What comes of places `ps` when those in `old` are known: the set has the known ones and the new
ones, and no other place is new. -/
structure News (old ps : List Nat) (next : Std.HashSet Nat × List Nat) : Prop where
  contains_iff : ∀ j, next.1.contains j = true ↔ j ∈ next.2 ++ old
  known : ∀ j ∈ ps, j ∈ old ∨ j ∈ next.2
  mem_of_new : ∀ j ∈ next.2, j ∈ ps
  not_mem_of_new : ∀ j ∈ next.2, j ∉ old

/-- Of the places that are told those are kept that were not seen before. -/
theorem news_fresh {old ps : List Nat} {seen : Std.HashSet Nat}
    (hseen : ∀ j, seen.contains j = true ↔ j ∈ old) : News old ps (fresh seen ps) := by
  have hnew (j : Nat) : j ∈ (fresh seen ps).2 ↔ j ∈ ps ∧ j ∉ old := by
    rw [mem_fresh_iff, ← hseen, Bool.not_eq_true]
  refine ⟨?_, ?_, fun j hj => ((hnew j).mp hj).1, fun j hj => ((hnew j).mp hj).2⟩
  · intro j
    rw [List.mem_append, hnew, fresh, contains_foldl_visit, hseen]
    by_cases hold : j ∈ old <;> simp [hold]
  · intro j hj
    rw [hnew]
    by_cases hold : j ∈ old <;> simp [hold, hj]

/-- Listing no place twice leaves none out. -/
theorem History.of_distinct (h : History (distinct f) trail asked told) :
    ∃ all, History f trail asked all ∧ ∀ j ∈ all, j ∈ told := by
  induction h with
  | blank => exact ⟨[], .blank, by simp⟩
  | @ask trail asked told _ ps ih =>
    obtain ⟨all, hf, hall⟩ := ih
    refine ⟨_, hf.ask ps, ?_⟩
    intro j hj
    cases List.mem_append.mp hj with
    | inl hj => exact List.mem_append_left _ (hall j hj)
    | inr hj => exact List.mem_append_right _ (mem_fresh_iff.mpr ⟨hj, Std.HashSet.contains_empty⟩)

theorem covers_distinct (hf : Covers n R f) : Covers n R (distinct f) := by
  intro trail asked told h hasked i hi j hij
  obtain ⟨all, hhistory, hall⟩ := h.of_distinct
  exact hall j (hf _ _ _ hhistory hasked i hi j hij)

end Step

end InvertedIndex.Pattern
