import InvertedIndex.Postings.Walk
import InvertedIndex.Proofs.Postings.Counts

namespace InvertedIndex.Postings

namespace Walk

/-- The members that the walk has not come to. -/
def left (w : Walk) : List PostingsId := w.here ++ w.behind.flatMap Block.ids

/-- A walk enters the first block that has a member. -/
theorem enter_eq (bs : List Block) :
    (enter bs = none ∧ bs.flatMap Block.ids = []) ∨
      ∃ id w, enter bs = some (id, w) ∧ bs.flatMap Block.ids = id :: w.left := by
  induction bs with
  | nil => exact .inl ⟨rfl, rfl⟩
  | cons b bs ih =>
    rw [enter, List.flatMap_cons, Block.ids]
    cases b.lows.toList.map (join b.key) with
    | nil => exact ih
    | cons id ids => exact .inr ⟨id, ⟨ids, bs⟩, rfl, rfl⟩

/-- There is a next member just when one is left, and it is the first of those. -/
theorem next?_eq (w : Walk) :
    (w.next? = none ∧ w.left = []) ∨ ∃ id w', w.next? = some (id, w') ∧ w.left = id :: w'.left := by
  obtain ⟨here, behind⟩ := w
  cases here with
  | nil => exact enter_eq behind
  | cons id ids => exact .inr ⟨id, ⟨ids, behind⟩, rfl, rfl⟩

/-- The hint says how many members are left. -/
theorem sizeHint_eq (w : Walk) : w.sizeHint = (w.left.length, some w.left.length) := by
  have hbehind : (w.behind.flatMap Block.ids).length = (⟨w.behind⟩ : Postings).size := by
    rw [← toList_eq_flatMap ⟨w.behind⟩, length_toList]
  rw [sizeHint, left, List.length_append, hbehind]

/-- A walk hands out the members that are left in it. -/
theorem take_eq (n : Nat) (w : Walk) :
    (w.take n).1 = w.left.take n ∧ (w.take n).2.left = w.left.drop n := by
  induction n generalizing w with
  | zero => exact ⟨rfl, rfl⟩
  | succ n ih =>
    rw [take]
    rcases next?_eq w with ⟨hnext, hleft⟩ | ⟨id, w', hnext, hleft⟩
    · rw [hnext]
      simp [hleft]
    · obtain ⟨hids, hrest⟩ := ih w'
      rw [hnext, hleft]
      simp [hids, hrest]

end Walk

theorem left_walk (p : Postings) : p.walk.left = p.toList := rfl

variable {σ ε : Type} {f : σ → PostingsId → σ × Except ε Unit}

/-- The action goes through on all of these numbers, and leads from one state to the other. -/
inductive Passes (f : σ → PostingsId → σ × Except ε Unit) : σ → List PostingsId → σ → Prop where
  | nil (s : σ) : Passes f s [] s
  | cons {s t u : σ} {id : PostingsId} {ids : List PostingsId} (head : f s id = (t, .ok ()))
    (tail : Passes f t ids u) : Passes f s (id :: ids) u

/-- How a visit of numbers ends: with the last of them, or with one that the action fails on. -/
inductive Ends (f : σ → PostingsId → σ × Except ε Unit) (s : σ) (ids : List PostingsId) :
    σ × Except ε Unit → Prop where
  | all {t : σ} (pass : Passes f s ids t) : Ends f s ids (t, .ok ())
  | first {front back : List PostingsId} {id : PostingsId} {t u : σ} {e : ε}
    (here : ids = front ++ id :: back) (pass : Passes f s front t) (fail : f t id = (u, .error e)) :
    Ends f s ids (u, .error e)

/-- An action that is tried on the members sees them in order, up to and including the first that it
fails on. -/
theorem ends_visit (f : σ → PostingsId → σ × Except ε Unit) (s : σ) (ids : List PostingsId) :
    Ends f s ids (visit f s ids) := by
  induction ids generalizing s with
  | nil => exact .all (.nil s)
  | cons id ids ih =>
    rw [visit]
    split
    · next t hpass =>
      have hrest := ih t
      generalize visit f t ids = result at hrest ⊢
      cases hrest with
      | all pass => exact .all (.cons hpass pass)
      | first here pass fail =>
        exact .first (by rw [here, List.cons_append]) (.cons hpass pass) fail
    · next t e hfail =>
      have hfront : id :: ids = [] ++ id :: ids := rfl
      exact .first hfront (.nil s) hfail

end InvertedIndex.Postings
