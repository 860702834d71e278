import InvertedIndex.Pattern.Trail
import InvertedIndex.Pattern.Tree

namespace InvertedIndex.Pattern.Tree

def literalEnd? (s : Subject) (xs : Bytes) (i : Nat) : Option Nat :=
  if xs.isPrefixOf (s.rest i) then some (i + xs.length) else none

def charEnd? (s : Subject) (set : Ranges) (i : Nat) : Option Nat :=
  match Utf8.head? (s.rest i) with
  | some (.char c width) => if set.contains c.toNat then some (i + width) else none
  | _ => none

def byteEnd? (s : Subject) (set : Ranges) (i : Nat) : Option Nat :=
  match s.byteAt? i with
  | some b => if set.contains b.toNat then some (i + 1) else none
  | none => none

/-- A step taken at least `min` times and at most `max` times. A match that is not empty moves on by
a byte, so an open repetition needs as many rounds as the text has bytes. -/
def repeatStep (s : Subject) (min : Nat) (max : Option Nat) (f : Step) : Step :=
  (f.times min).andThen
    (match max with
    | none => f.anyTimes s.length
    | some max => f.upTo (max - min))

mutual

/-- From the starts of matches to their ends. -/
def walk (s : Subject) : Tree → Step
  | empty, trail, ps => Step.stay trail ps
  | literal xs, trail, ps => Step.ofPartial (literalEnd? s xs) trail ps
  | chars set, trail, ps => Step.ofPartial (charEnd? s set) trail ps
  | bytes set, trail, ps => Step.ofPartial (byteEnd? s set) trail ps
  | look k, trail, ps => Step.guard (k.holds s) trail ps
  | repetition min max _ sub, trail, ps => repeatStep s min max (walk s sub) trail ps
  | capture _ _ sub, trail, ps => walk s sub trail ps
  | concat subs, trail, ps => walkThrough s subs trail ps
  | alternation subs, trail, ps => Step.distinct (walkAny s subs) trail ps

/-- One tree behind the other. -/
def walkThrough (s : Subject) : List Tree → Step
  | [], trail, ps => Step.stay trail ps
  | t :: ts, trail, ps => Step.andThen (walk s t) (walkThrough s ts) trail ps

def walkAny (s : Subject) : List Tree → Step
  | [], trail, _ => ([], trail)
  | t :: ts, trail, ps => Step.orElse (walk s t) (walkAny s ts) trail ps

end

/-- Where matches end: the places at which a match of the tree ends that starts at one of the given
places of the text. -/
def reach (s : Subject) (t : Tree) (ps : List Nat) : List Nat := (walk s t .blank ps).1

/-- Some part of the text matches. -/
def isMatch (t : Tree) (text : Bytes) : Bool :=
  let s := Subject.ofText text
  !(reach s t s.places).isEmpty

/-- The text as a whole matches. -/
def isWholeMatch (t : Tree) (text : Bytes) : Bool :=
  let s := Subject.ofText text
  (reach s t [0]).contains s.length

end InvertedIndex.Pattern.Tree
