import InvertedIndex.Proofs.Postings.Views
import Mathlib.Data.Finset.Union
import Mathlib.Logic.Function.Basic

namespace InvertedIndex.Postings

/-- What can be done to a list. Other lists that have a part in it are given by their names. -/
inductive Action where
  | create
  | ofList (ids : List PostingsId)
  | ofRange (lo hi : PostingsId)
  | clone (source : Nat)
  | insert (id : PostingsId)
  | insertRange (lo hi : PostingsId)
  | remove (id : PostingsId)
  | truncate (min : PostingsId)
  | removeRange (lo hi : PostingsId)
  | reset
  | inter (other : Nat)
  | union (other : Nat)
  | diff (other : Nat)
  | unionAll (others : List Nat)
  /-- Reads back what another list is written as. -/
  | reload (source : Nat)

/-- What a caller is told. -/
inductive Answer where
  | none
  | told (b : Bool)
  | counted (n : Nat)
  | failed (e : Error)

namespace Action

/-- What becomes of the list `p` where the others are `lists`, and what is answered. -/
def onList (lists : Nat → Postings) (p : Postings) : Action → Postings × Answer
  | create | reset => (∅, .none)
  | ofList ids => (.ofList ids, .none)
  | ofRange lo hi => (.ofRange lo hi, .none)
  | clone source => (lists source, .none)
  | insert id => (p.insertTelling id).map (fun q => q) .told
  | insertRange lo hi => (p.insertRangeTelling lo hi).map (fun q => q) .counted
  | remove id => (p.removeTelling id).map (fun q => q) .told
  | truncate min => (p.truncateTelling min).map (fun q => q) .counted
  | removeRange lo hi => (p.removeRangeTelling lo hi).map (fun q => q) .counted
  | inter other => (p.inter (lists other), .none)
  | union other => (p.union (lists other), .none)
  | diff other => (p.diff (lists other), .none)
  | unionAll others => (p.unionAll (others.map lists), .none)
  | reload source =>
    match decode (lists source).encode with
    | .ok q => (q, .none)
    | .error e => (p, .failed e)

/-- The set that the action makes of `s` where the others are `sets`. -/
def effect (sets : Nat → Finset PostingsId) (s : Finset PostingsId) : Action → Finset PostingsId
  | create | reset => ∅
  | ofList ids => ids.toFinset
  | ofRange lo hi => between lo hi
  | clone source | reload source => sets source
  | insert id => Insert.insert id s
  | insertRange lo hi => s ∪ between lo hi
  | remove id => s.erase id
  | truncate min => {id ∈ s | id < min}
  | removeRange lo hi => s \ between lo hi
  | inter other => s ∩ sets other
  | union other => s ∪ sets other
  | diff other => s \ sets other
  | unionAll others => s ∪ others.toFinset.biUnion sets

/-- A single number is told to have changed or not, numbers of a range are counted. -/
def answer (before after : Finset PostingsId) : Action → Answer
  | insert _ | remove _ => .told (before ≠ after)
  | insertRange .. | truncate _ | removeRange .. => .counted (symmDiff before after).card
  | _ => .none

def onSet (sets : Nat → Finset PostingsId) (s : Finset PostingsId) (a : Action) :
    Finset PostingsId × Answer := (a.effect sets s, a.answer s (a.effect sets s))

end Action

/-- Each step changes the list of one name. -/
def run {α : Type} (perform : (Nat → α) → α → Action → α × Answer) (start : Nat → α) :
    List (Nat × Action) → (Nat → α) × List Answer
  | [] => (start, [])
  | (name, a) :: steps =>
    let (after, answer) := perform start (start name) a
    let (states, answers) := run perform (Function.update start name after) steps
    (states, answer :: answers)

/-- The lists of all names after a history, and the answers. Every list is empty at first. -/
def lists (steps : List (Nat × Action)) : (Nat → Postings) × List Answer :=
  run (fun lists p a => a.onList lists p) (fun _ => ∅) steps

def sets (steps : List (Nat × Action)) : (Nat → Finset PostingsId) × List Answer :=
  run (fun sets s a => a.onSet sets s) (fun _ => ∅) steps

/-- A list that comes about in some history. -/
structure Made where
  list : Postings
  history : ∃ steps name, (lists steps).1 name = list

theorem Represents.unionAll {ls : Nat → Postings} {ss : Nat → Finset PostingsId} {p : Postings}
    {s : Finset PostingsId} (h : p.Represents s) (hothers : ∀ i, (ls i).Represents (ss i))
    (names : List Nat) :
    (p.unionAll (names.map ls)).Represents (s ∪ names.toFinset.biUnion ss) := by
  induction names generalizing p s with
  | nil => simpa [Postings.unionAll] using h
  | cons name names ih =>
    have hrest := ih (h.union (hothers name))
    rwa [Finset.union_assoc, ← Finset.biUnion_insert, ← List.toFinset_cons] at hrest

/-- One step does to a list what it does to its set, and both answer the same. -/
theorem represents_onList {ls : Nat → Postings} {ss : Nat → Finset PostingsId} {p : Postings}
    {s : Finset PostingsId} (hothers : ∀ i, (ls i).Represents (ss i)) (h : p.Represents s)
    (a : Action) :
    (a.onList ls p).1.Represents (a.onSet ss s).1 ∧ (a.onList ls p).2 = (a.onSet ss s).2 := by
  cases a with
  | create => exact ⟨represents_empty, rfl⟩
  | ofList ids => exact ⟨represents_ofList ids, rfl⟩
  | ofRange lo hi => exact ⟨represents_ofRange lo hi, rfl⟩
  | clone source => exact ⟨hothers source, rfl⟩
  | insert id => exact ⟨h.insert id, congrArg Answer.told (h.insertTelling_snd id)⟩
  | insertRange lo hi =>
    exact ⟨h.insertRange lo hi, congrArg Answer.counted (h.insertRangeTelling_snd lo hi)⟩
  | remove id => exact ⟨h.remove id, congrArg Answer.told (h.removeTelling_snd id)⟩
  | truncate min => exact ⟨h.truncate min, congrArg Answer.counted (h.truncateTelling_snd min)⟩
  | removeRange lo hi =>
    exact ⟨h.removeRange lo hi, congrArg Answer.counted (h.removeRangeTelling_snd lo hi)⟩
  | reset => exact ⟨represents_empty, rfl⟩
  | inter other => exact ⟨h.inter (hothers other), rfl⟩
  | union other => exact ⟨h.union (hothers other), rfl⟩
  | diff other => exact ⟨h.diff (hothers other), rfl⟩
  | unionAll others => exact ⟨h.unionAll hothers others, rfl⟩
  | reload source =>
    rw [Action.onList, decode_encode (hothers source).canonical]
    exact ⟨hothers source, rfl⟩

/-- After every history lists and answers are those of the sets. -/
theorem represents_run {ls : Nat → Postings} {ss : Nat → Finset PostingsId}
    (h : ∀ i, (ls i).Represents (ss i)) (steps : List (Nat × Action)) :
    (∀ i, ((run (fun ls p a => a.onList ls p) ls steps).1 i).Represents
        ((run (fun ss s a => a.onSet ss s) ss steps).1 i)) ∧
      (run (fun ls p a => a.onList ls p) ls steps).2 =
        (run (fun ss s a => a.onSet ss s) ss steps).2 := by
  induction steps generalizing ls ss with
  | nil => exact ⟨h, rfl⟩
  | cons step steps ih =>
    obtain ⟨name, a⟩ := step
    obtain ⟨hafter, hanswer⟩ := represents_onList h (h name) a
    have hstep : ∀ i, (Function.update ls name (a.onList ls (ls name)).1 i).Represents
        (Function.update ss name (a.onSet ss (ss name)).1 i) := by
      intro i
      by_cases hi : i = name
      · subst hi
        rwa [Function.update_self, Function.update_self]
      · rw [Function.update_of_ne hi, Function.update_of_ne hi]
        exact h i
    obtain ⟨hlists, hanswers⟩ := ih hstep
    exact ⟨hlists, congrArg₂ List.cons hanswer hanswers⟩

theorem represents_lists (steps : List (Nat × Action)) (i : Nat) :
    ((lists steps).1 i).Represents ((sets steps).1 i) :=
  (represents_run (fun _ => represents_empty) steps).1 i

/-- Whatever history a list has, it is in the canonical form. -/
theorem Made.canonical (p : Made) : p.list.Canonical := by
  obtain ⟨p, steps, name, rfl⟩ := p
  exact (represents_lists steps name).canonical

/-- After every history the answers are those that sets give, every list shows its set, and lists are
equal just when their sets are. -/
theorem lists_are_sets (steps : List (Nat × Action)) :
    (lists steps).2 = (sets steps).2 ∧
      (∀ i, ((lists steps).1 i).Shows ((sets steps).1 i)) ∧
      ∀ i j, (lists steps).1 i = (lists steps).1 j ↔ (sets steps).1 i = (sets steps).1 j :=
  ⟨(represents_run (fun _ => represents_empty) steps).2,
    fun i => (represents_lists steps i).shows,
    fun i j => (represents_lists steps i).eq_iff (represents_lists steps j)⟩

end InvertedIndex.Postings
