import InvertedIndex.Pattern.Automaton.Character
import InvertedIndex.Pattern.Automaton.Words
import InvertedIndex.Pattern.Tree

namespace InvertedIndex.Pattern

namespace Tree

mutual

/-- The least length of a match, if there is one. -/
def minLength : Tree → Option Nat
  | empty | look _ => some 0
  | literal text => some text.length
  | chars set => set.head?.map fun r => (Utf8.encode [.ofNat r.lo]).length
  | bytes set => if set.isEmpty then none else some 1
  | repetition min _ _ sub => (minLength sub).map (min * ·)
  | capture _ _ sub => minLength sub
  | concat subs => minLengthOfFactors subs
  | alternation subs => minLengthOfBranches subs

def minLengthOfFactors : List Tree → Option Nat
  | [] => some 0
  | t :: ts =>
    match minLength t, minLengthOfFactors ts with
    | some m, some n => some (m + n)
    | _, _ => none

def minLengthOfBranches : List Tree → Option Nat
  | [] => none
  | [t] => minLength t
  | t :: ts =>
    match minLength t, minLengthOfBranches ts with
    | some m, some n => some (min m n)
    | _, _ => none

end

mutual

/-- Every match starts where `k` holds, as far as the factors of no length at the front say. -/
def startsWith (k : Look) : Tree → Bool
  | look j => j = k
  | repetition min _ _ sub => 0 < min && startsWith k sub
  | capture _ _ sub => startsWith k sub
  | concat subs => anyStartsWith k subs
  | alternation subs => allStartWith k subs
  | _ => false

def anyStartsWith (k : Look) : List Tree → Bool
  | [] => false
  | t :: ts => startsWith k t || (t.maxLength = some 0 && anyStartsWith k ts)

def allStartWith (k : Look) : List Tree → Bool
  | [] => true
  | t :: ts => startsWith k t && allStartWith k ts

end

mutual

/-- Every match ends where `k` holds, as far as the factors of no length at the back say. -/
def endsWith (k : Look) : Tree → Bool
  | look j => j = k
  | repetition min _ _ sub => 0 < min && endsWith k sub
  | capture _ _ sub => endsWith k sub
  | concat subs => anyEndsWith k subs
  | alternation subs => allEndWith k subs
  | _ => false

def anyEndsWith (k : Look) : List Tree → Bool
  | [] => false
  | t :: ts => anyEndsWith k ts || (maxLengthOfFactors ts = some 0 && endsWith k t)

def allEndWith (k : Look) : List Tree → Bool
  | [] => true
  | t :: ts => endsWith k t && allEndWith k ts

end

def literal? : Tree → Option Bytes
  | literal text => some text
  | _ => none

end Tree

namespace Automaton

/-- How the text is read, and whether the places of captures are noted. -/
inductive Reading where
  | forward (notesPlaces : Bool)
  | backward
  deriving DecidableEq, Repr

namespace Plan

def ofChars (r : Reading) (set : Ranges) : Plan :=
  if Tree.isAscii set then ofBytes set
  else
    let sequences := set.flatMap Utf8.sequences
    match r with
    | .forward _ => forward sequences
    | .backward => backward sequences

def capture (r : Reading) (p : Plan) : Plan :=
  match r with
  | .forward true => p.noted
  | _ => p

/-- Any text before a match. -/
def skipping : Plan := star true true (ofBytes [⟨0, 255⟩])

end Plan

mutual

/-- The automaton of a tree, part by part. Counted repetitions are unrolled, so a short pattern may need
a large one. -/
def plan (r : Reading) : Tree → Plan
  | .empty => .nothing
  | .look k => .single (.look k 0)
  | .literal text =>
    .ofWord (match r with | .forward _ => text | .backward => text.reverse)
  | .chars set => .ofChars r set
  | .bytes set => .ofBytes set
  | .repetition min max greedy sub =>
    .repetition min max (!greedy) (sub.minLength.any (0 < ·)) (plan r sub)
  | .capture _ _ sub => (plan r sub).capture r
  | .concat subs => planFactors r subs
  | .alternation subs =>
    match subs.mapM Tree.literal? with
    | some words =>
      if 1 < words.length then
        ofWords (match r with | .forward _ => words | .backward => words.map List.reverse)
      else .oneOf (planBranches r subs)
    | none => .oneOf (planBranches r subs)

def planFactors (r : Reading) : List Tree → Plan
  | [] => .nothing
  | [t] => plan r t
  | t :: ts =>
    match r with
    | .forward _ => (plan r t).andThen (planFactors r ts)
    | .backward => (planFactors r ts).andThen (plan r t)

def planBranches (r : Reading) : List Tree → List Plan
  | [] => []
  | t :: ts => plan r t :: planBranches r ts

end

/-- The automaton of a whole pattern: matches may start anywhere, unless they are bound to the
start of the text, and behind a match stands a state that says so. The piece is left in that state,
and entered where matches start. -/
def whole (r : Reading) (t : Tree) : Plan := do
  let isBound := match r with
    | .forward _ => t.startsWith .textStart
    | .backward => t.endsWith .textEnd
  let before ← if isBound then Plan.nothing else Plan.skipping
  let a ← (plan r t).capture r
  let stop ← Drawing.add .stop
  Drawing.lead a.stop stop
  Drawing.lead before.stop a.start
  Drawing.checkMemory
  return ⟨a.start, stop⟩

/-- The tree has both automata within the limit. -/
def fits (t : Tree) : Bool :=
  [Reading.forward true, .backward].all fun r => ((whole r t).run .empty).isSome

end Automaton

end InvertedIndex.Pattern
