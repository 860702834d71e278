import Std.Data.HashSet

namespace InvertedIndex.Pattern

/-- Adds a place to a set, and to the list of what is new in it. -/
def visit (v : Std.HashSet Nat × List Nat) (i : Nat) : Std.HashSet Nat × List Nat :=
  if v.1.contains i then v else (v.1.insert i, i :: v.2)

theorem contains_visit (v : Std.HashSet Nat × List Nat) (i j : Nat) :
    (visit v i).1.contains j = (v.1.contains j || i == j) := by
  by_cases h : v.1.contains i
  · by_cases hj : i = j
    · simp [visit, h, ← hj]
    · simp [visit, h, hj]
  · simp [visit, h, Std.HashSet.contains_insert, Bool.or_comm]

/-- The set together with `ps`, and those of `ps` that are new, each of them once. -/
def fresh (seen : Std.HashSet Nat) (ps : List Nat) : Std.HashSet Nat × List Nat :=
  ps.foldl visit (seen, [])

/-- The places a step has been at, and the trails of its parts. -/
inductive Trail where
  | node (seen : Std.HashSet Nat) (parts : List Trail)

def Trail.blank : Trail := .node ∅ []

/-- From places in a text to further places. What a step has led to before it may leave out, so that it
need not go twice where it has been; from a blank trail it leads to all places there are. -/
abbrev Step := Trail → List Nat → List Nat × Trail

namespace Step

def stay : Step := fun trail ps => (ps, trail)

/-- Leads from a place to one place at most. -/
def ofPartial (f : Nat → Option Nat) : Step := fun trail ps => (ps.filterMap f, trail)

/-- Stays at the places that pass the test. -/
def guard (test : Nat → Bool) : Step := fun trail ps => (ps.filter test, trail)

/-- One step behind the other, each with a trail of its own. -/
def andThen (f g : Step) : Step := fun (.node seen parts) ps =>
  let (front, back) := match parts with
    | front :: back :: _ => (front, back)
    | _ => (.blank, .blank)
  let (qs, front) := f front ps
  let (rs, back) := g back qs
  (rs, .node seen [front, back])

/-- Leads where either step leads. -/
def orElse (f g : Step) : Step := fun (.node seen parts) ps =>
  let (left, right) := match parts with
    | left :: right :: _ => (left, right)
    | _ => (.blank, .blank)
  let (qs, left) := f left ps
  let (rs, right) := g right ps
  (qs ++ rs, .node seen [left, right])

/-- Lists no place twice. -/
def distinct (f : Step) : Step := fun trail ps =>
  let (qs, trail) := f trail ps
  ((fresh ∅ qs).2, trail)

/-- A row of trails, one for each time that a step is repeated: those that were used, the latest
first, and those that were not. -/
structure Row where
  used : List Trail
  unused : List Trail

namespace Row

def close (r : Row) : Trail := .node ∅ (r.used.reverseAux r.unused)

/-- Takes a step with the next trail of a row. -/
def take (f : Step) : Row → List Nat → List Nat × Row
  | ⟨used, []⟩, ps =>
    let (qs, trail) := f .blank ps
    (qs, ⟨trail :: used, []⟩)
  | ⟨used, trail :: unused⟩, ps =>
    let (qs, trail) := f trail ps
    (qs, ⟨trail :: used, unused⟩)

end Row

def timesIn (f : Step) : Nat → Row → List Nat → List Nat × Trail
  | 0, row, ps => (ps, row.close)
  | _ + 1, row, [] => ([], row.close)
  | n + 1, row, p :: ps =>
    let (qs, row) := row.take f (p :: ps)
    timesIn f n row qs

/-- A step taken exactly `n` times. -/
def times (f : Step) (n : Nat) : Step := fun (.node _ parts) ps => timesIn f n ⟨[], parts⟩ ps

/-- Adds to `found` what up to `n` steps reach from `latest`, the last places that were found. The
set `seen` has the same members as `found`: who goes on from a place later has fewer steps left. -/
def upToIn (f : Step) : Nat → Row → Std.HashSet Nat → List Nat → List Nat → List Nat × Trail
  | 0, row, _, found, _ => (found, row.close)
  | n + 1, row, seen, found, latest =>
    let (qs, row) := row.take f latest
    match fresh seen qs with
    | (_, []) => (found, row.close)
    | (seen, new) => upToIn f n row seen (new ++ found) new

theorem upToIn_succ (f : Step) (n : Nat) (row : Row) (seen : Std.HashSet Nat)
    (found latest : List Nat) :
    upToIn f (n + 1) row seen found latest =
      match fresh seen (row.take f latest).1 with
      | (_, []) => (found, (row.take f latest).2.close)
      | (seen, new) => upToIn f n (row.take f latest).2 seen (new ++ found) new := rfl

/-- A step taken up to `n` times. -/
def upTo (f : Step) (n : Nat) : Step := fun (.node _ parts) ps =>
  let (seen, new) := fresh ∅ ps
  upToIn f n ⟨[], parts⟩ seen new new

/-- Goes on from the last places that were found until nothing is new, for at most `n` rounds. -/
def anyTimesIn (f : Step) :
    Nat → Trail → Std.HashSet Nat → List Nat → List Nat → List Nat × Trail
  | 0, trail, seen, found, _ => (found, .node seen [trail])
  | n + 1, trail, seen, found, latest =>
    let (qs, trail) := f trail latest
    match fresh seen qs with
    | (seen, []) => (found, .node seen [trail])
    | (seen, new) => anyTimesIn f n trail seen (new ++ found) new

theorem anyTimesIn_succ (f : Step) (n : Nat) (trail : Trail) (seen : Std.HashSet Nat)
    (found latest : List Nat) :
    anyTimesIn f (n + 1) trail seen found latest =
      match fresh seen (f trail latest).1 with
      | (seen, []) => (found, .node seen [(f trail latest).2])
      | (seen, new) => anyTimesIn f n (f trail latest).2 seen (new ++ found) new := rfl

/-- A step taken any number of times, where `n` rounds suffice to reach everything. Nothing is new
at places where it has been before. -/
def anyTimes (f : Step) (n : Nat) : Step := fun (.node seen parts) ps =>
  match fresh seen ps with
  | (seen, []) => ([], .node seen parts)
  | (seen, new) => anyTimesIn f n (parts.headD .blank) seen new new

theorem anyTimes_node (f : Step) (n : Nat) (seen : Std.HashSet Nat) (parts : List Trail)
    (ps : List Nat) :
    anyTimes f n (.node seen parts) ps =
      match fresh seen ps with
      | (seen, []) => ([], .node seen parts)
      | (seen, new) => anyTimesIn f n (parts.headD .blank) seen new new := rfl

end Step

end InvertedIndex.Pattern
