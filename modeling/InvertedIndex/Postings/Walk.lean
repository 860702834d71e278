import InvertedIndex.Postings

namespace InvertedIndex.Postings

/-- What is left of the block that the walk has come to, and the blocks behind it. -/
structure Walk where
  here : List PostingsId
  behind : List Block

namespace Walk

/-- Goes on to the first block that has a member. -/
def enter : List Block → Option (PostingsId × Walk)
  | [] => none
  | b :: bs =>
    match b.lows.toList.map (join b.key) with
    | [] => enter bs
    | id :: ids => some (id, ⟨ids, bs⟩)

/-- The next member and the walk behind it. -/
def next? (w : Walk) : Option (PostingsId × Walk) :=
  match w.here with
  | [] => enter w.behind
  | id :: ids => some (id, ⟨ids, w.behind⟩)

/-- Bounds from below and above on the number of members that are left. -/
def sizeHint (w : Walk) : Nat × Option Nat :=
  let left := w.here.length + (⟨w.behind⟩ : Postings).size
  (left, some left)

/-- The next members, as many as are asked for if there are so many, and the walk behind them. -/
def take : Nat → Walk → List PostingsId × Walk
  | 0, w => ([], w)
  | n + 1, w =>
    match w.next? with
    | none => ([], w)
    | some (id, w) =>
      let (ids, w) := take n w
      (id :: ids, w)

end Walk

/-- A walk goes through the list as it was when the walk began. -/
def walk (p : Postings) : Walk := ⟨[], p.blocks⟩

/-- Hands numbers to an action, which keeps a state, up to the first that it fails on. -/
def visit (f : σ → PostingsId → σ × Except ε Unit) (s : σ) : List PostingsId → σ × Except ε Unit
  | [] => (s, .ok ())
  | id :: ids =>
    match f s id with
    | (s, .ok ()) => visit f s ids
    | (s, .error e) => (s, .error e)

/-- Goes over the list itself and stops where the action fails. -/
def tryForEach (p : Postings) (f : σ → PostingsId → σ × Except ε Unit) (s : σ) :
    σ × Except ε Unit := visit f s p.toList

end InvertedIndex.Postings
