import InvertedIndex.Proofs.Trigram.Query
import Mathlib.Data.List.Basic

namespace InvertedIndex.Trigram.Query

/-- Parts that are worth a sign of their own: several, all different, none of them a constant, and none under
the same sign. -/
structure Gathered (sign : List Query → Query) (subs : List Query) : Prop where
  several : 2 ≤ subs.length
  different : subs.Nodup
  noAll : all ∉ subs
  noNone : none ∉ subs
  flat : ∀ ps, sign ps ∉ subs

inductive Normal : Query → Prop
  | all : Normal all
  | none : Normal none
  | trigram (t : Trigram) : Normal (trigram t)
  | and {subs : List Query} (gathered : Gathered and subs) (parts : ∀ q ∈ subs, Normal q) :
      Normal (and subs)
  | or {subs : List Query} (gathered : Gathered or subs) (parts : ∀ q ∈ subs, Normal q) :
      Normal (or subs)

theorem any_isNone_iff {qs : List Query} : qs.any isNone = true ↔ none ∈ qs := by
  rw [List.any_eq_true]
  constructor
  · rintro ⟨q, hq, hnone⟩
    cases q <;> simp [isNone] at hnone
    exact hq
  · exact fun h => ⟨none, h, rfl⟩

theorem any_isAll_iff {qs : List Query} : qs.any isAll = true ↔ all ∈ qs := by
  rw [List.any_eq_true]
  constructor
  · rintro ⟨q, hq, hall⟩
    cases q <;> simp [isAll] at hall
    exact hq
  · exact fun h => ⟨all, h, rfl⟩

/-- What may be a part under a sign. -/
structure Fits (sign : List Query → Query) (p : Query) : Prop where
  normal : Normal p
  notAll : p ≠ all
  notNone : p ≠ none
  flat : ∀ ps, p ≠ sign ps

theorem Gathered.fits {sign : List Query → Query} {subs : List Query} (h : Gathered sign subs)
    (parts : ∀ q ∈ subs, Normal q) {p : Query} (hp : p ∈ subs) : Fits sign p where
  normal := parts p hp
  notAll := ne_of_mem_of_not_mem hp h.noAll
  notNone := ne_of_mem_of_not_mem hp h.noNone
  flat ps := ne_of_mem_of_not_mem hp (h.flat ps)

theorem fits_of_mem_conjuncts {p q : Query} (hq : Normal q) (hne : q ≠ none) (hp : p ∈ q.conjuncts) :
    Fits and p := by
  cases hq with
  | all => cases hp
  | none => exact absurd rfl hne
  | trigram t =>
    obtain rfl := List.mem_singleton.mp hp
    exact ⟨.trigram t, by simp, by simp, by simp⟩
  | and gathered parts => exact gathered.fits parts hp
  | or gathered parts =>
    obtain rfl := List.mem_singleton.mp hp
    exact ⟨.or gathered parts, by simp, by simp, by simp⟩

theorem fits_of_mem_disjuncts {p q : Query} (hq : Normal q) (hne : q ≠ all) (hp : p ∈ q.disjuncts) :
    Fits or p := by
  cases hq with
  | all => exact absurd rfl hne
  | none => cases hp
  | trigram t =>
    obtain rfl := List.mem_singleton.mp hp
    exact ⟨.trigram t, by simp, by simp, by simp⟩
  | and gathered parts =>
    obtain rfl := List.mem_singleton.mp hp
    exact ⟨.and gathered parts, by simp, by simp, by simp⟩
  | or gathered parts => exact gathered.fits parts hp

/-- What is left of several parts without repetitions makes a normal condition, if it is more than one.
-/
theorem gathered_distinct {sign : List Query → Query} {qs : List Query}
    (h : ∀ q ∈ distinct qs, Fits sign q) (hnil : distinct qs ≠ []) (hone : ∀ q, distinct qs ≠ [q]) :
    Gathered sign (distinct qs) where
  several := by
    rcases hparts : distinct qs with _ | ⟨p, _ | ⟨q, rest⟩⟩
    · exact absurd hparts hnil
    · exact absurd hparts (hone p)
    · simp
  different := nodup_distinct qs
  noAll hall := (h _ hall).notAll rfl
  noNone hnone := (h _ hnone).notNone rfl
  flat ps hps := (h _ hps).flat ps rfl

/-- A conjunction of normal conditions is normal. -/
theorem normal_conjunction {subs : List Query} (h : ∀ q ∈ subs, Normal q) : Normal (conjunction subs) := by
  unfold conjunction
  split
  · exact .none
  · next hnone =>
    have hfits : ∀ p ∈ distinct (subs.flatMap conjuncts), Fits and p := by
      intro p hp
      obtain ⟨q, hq, hpq⟩ := List.mem_flatMap.mp (mem_distinct.mp hp)
      refine fits_of_mem_conjuncts (h q hq) ?_ hpq
      rintro rfl
      exact hnone (any_isNone_iff.mpr hq)
    split
    · exact .all
    · next q hone => exact (hfits q (by simp [hone])).normal
    · next hnil hone => exact .and (gathered_distinct hfits hnil hone) fun q hq => (hfits q hq).normal

theorem normal_disjunction {subs : List Query} (h : ∀ q ∈ subs, Normal q) : Normal (disjunction subs) := by
  unfold disjunction
  split
  · exact .all
  · next hall =>
    have hfits : ∀ p ∈ distinct (subs.flatMap disjuncts), Fits or p := by
      intro p hp
      obtain ⟨q, hq, hpq⟩ := List.mem_flatMap.mp (mem_distinct.mp hp)
      refine fits_of_mem_disjuncts (h q hq) ?_ hpq
      rintro rfl
      exact hall (any_isAll_iff.mpr hq)
    split
    · exact .none
    · next q hone => exact (hfits q (by simp [hone])).normal
    · next hnil hone => exact .or (gathered_distinct hfits hnil hone) fun q hq => (hfits q hq).normal

mutual

/-- Simplifying leads to a normal condition. -/
theorem normal_simplify : (q : Query) → Normal (simplify q)
  | all => .all
  | none => .none
  | trigram t => .trigram t
  | and subs => by
    rw [simplify]
    exact normal_conjunction (normal_of_mem_simplifyAll subs)
  | or subs => by
    rw [simplify]
    exact normal_disjunction (normal_of_mem_simplifyAll subs)

theorem normal_of_mem_simplifyAll : (qs : List Query) → ∀ q ∈ simplifyAll qs, Normal q
  | [] => by simp [simplifyAll]
  | q :: qs => by
    rw [simplifyAll, List.forall_mem_cons]
    exact ⟨normal_simplify q, normal_of_mem_simplifyAll qs⟩

end

theorem flatMap_eq_self {f : Query → List Query} {qs : List Query} (h : ∀ q ∈ qs, f q = [q]) :
    qs.flatMap f = qs := by
  rw [List.flatMap_congr h, List.flatMap_singleton']

/-- A normal conjunction is not changed by building it again. -/
theorem Gathered.conjunction_eq {subs : List Query} (h : Gathered and subs) :
    conjunction subs = and subs := by
  have hparts : ∀ q ∈ subs, q.conjuncts = [q] := by
    intro q hq
    cases q with
    | all => exact absurd hq h.noAll
    | and ps => exact absurd hq (h.flat ps)
    | _ => rfl
  rw [conjunction, if_neg (mt any_isNone_iff.mp h.noNone), flatMap_eq_self hparts,
    distinct_of_nodup h.different]
  have hseveral := h.several
  rcases subs with _ | ⟨p, _ | ⟨q, subs⟩⟩
  · simp at hseveral
  · simp at hseveral
  · rfl

theorem Gathered.disjunction_eq {subs : List Query} (h : Gathered or subs) :
    disjunction subs = or subs := by
  have hparts : ∀ q ∈ subs, q.disjuncts = [q] := by
    intro q hq
    cases q with
    | none => exact absurd hq h.noNone
    | or ps => exact absurd hq (h.flat ps)
    | _ => rfl
  rw [disjunction, if_neg (mt any_isAll_iff.mp h.noAll), flatMap_eq_self hparts,
    distinct_of_nodup h.different]
  have hseveral := h.several
  rcases subs with _ | ⟨p, _ | ⟨q, subs⟩⟩
  · simp at hseveral
  · simp at hseveral
  · rfl

theorem simplifyAll_eq_self {qs : List Query} (h : ∀ q ∈ qs, simplify q = q) : simplifyAll qs = qs := by
  induction qs with
  | nil => rfl
  | cons q qs ih =>
    obtain ⟨hq, hqs⟩ := List.forall_mem_cons.mp h
    rw [simplifyAll, hq, ih hqs]

/-- Simplifying leaves a normal condition as it is. -/
theorem Normal.simplify_eq {q : Query} (h : Normal q) : simplify q = q := by
  induction h with
  | all => rfl
  | none => rfl
  | trigram t => rfl
  | and gathered parts ih => rw [simplify, simplifyAll_eq_self ih, gathered.conjunction_eq]
  | or gathered parts ih => rw [simplify, simplifyAll_eq_self ih, gathered.disjunction_eq]

end InvertedIndex.Trigram.Query
