import InvertedIndex.Pattern.Look

namespace InvertedIndex.Pattern

/-- Patterns with their flags resolved. The constructors `literal` to `alternation` are the raw forms;
`ofChars`, `ofByteSet`, `repeated`, `ofFactors` and `ofBranches` build the simplified ones. -/
inductive Tree where
  | empty
  | literal (text : Bytes)
  /-- One character of the set, in UTF-8. -/
  | chars (set : Ranges)
  /-- One byte of the set. -/
  | bytes (set : Ranges)
  | look (kind : Look)
  | repetition (min : Nat) (max : Option Nat) (greedy : Bool) (sub : Tree)
  | capture (index : Nat) (name : Option (List Char)) (sub : Tree)
  | concat (subs : List Tree)
  | alternation (subs : List Tree)
  deriving BEq, Repr

namespace Tree

/-- What matches nothing. -/
def fail : Tree := .bytes []

def ofChars : Ranges → Tree
  | [] => fail
  | [⟨lo, hi⟩] => if lo = hi then .literal (Utf8.encode [.ofNat lo]) else .chars [⟨lo, hi⟩]
  | set => .chars set

def ofByteSet : Ranges → Tree
  | [⟨lo, hi⟩] => if lo = hi then .literal [.ofNat lo] else .bytes [⟨lo, hi⟩]
  | set => .bytes set

mutual

/-- The greatest length of a match, if there is one. -/
def maxLength : Tree → Option Nat
  | empty | look _ => some 0
  | literal text => some text.length
  | chars set => set.getLast?.map fun r => (Utf8.encode [.ofNat r.hi]).length
  | bytes set => if set.isEmpty then none else some 1
  | repetition _ max _ sub =>
    match max, maxLength sub with
    | some n, some length => some (n * length)
    | _, _ => none
  | capture _ _ sub => maxLength sub
  | concat subs => maxLengthOfFactors subs
  | alternation subs => maxLengthOfBranches subs

def maxLengthOfFactors : List Tree → Option Nat
  | [] => some 0
  | t :: ts =>
    match maxLength t, maxLengthOfFactors ts with
    | some m, some n => some (m + n)
    | _, _ => none

def maxLengthOfBranches : List Tree → Option Nat
  | [] => some 0
  | t :: ts =>
    match maxLength t, maxLengthOfBranches ts with
    | some m, some n => some (max m n)
    | _, _ => none

end

/-- Repeating what has no length more than once adds nothing. -/
def repeated (min : Nat) (max : Option Nat) (greedy : Bool) (sub : Tree) : Tree :=
  let (min, max) :=
    if sub.maxLength = some 0 then (Nat.min min 1, some (Nat.min (max.getD 1) 1)) else (min, max)
  if max = some 0 then .empty
  else if min = 1 ∧ max = some 1 then sub
  else .repetition min max greedy sub

def factors : Tree → List Tree
  | empty => []
  | concat subs => subs
  | t => [t]

/-- Makes one literal of literals that stand side by side. -/
def fuse : List Tree → List Tree
  | [] => []
  | t :: ts =>
    match t, fuse ts with
    | literal xs, literal ys :: rest => literal (xs ++ ys) :: rest
    | t, rest => t :: rest

/-- No concatenation stands directly inside another, and adjacent literals are one. -/
def ofFactors (subs : List Tree) : Tree :=
  match fuse (subs.flatMap factors) with
  | [] => .empty
  | [t] => t
  | ts => .concat ts

def branches : Tree → List Tree
  | alternation subs => subs
  | t => [t]

/-- The character that a literal consists of. -/
def char? : Tree → Option Char
  | literal text =>
    match Utf8.head? text with
    | some (.char c width) => if width = text.length then some c else none
    | _ => none
  | _ => none

def byte? : Tree → Option UInt8
  | literal [b] => some b
  | _ => none

def isAscii (set : Ranges) : Bool := set.all (·.hi ≤ 0x7F)

/-- A class as a set of characters; a byte that is not ASCII is no character. -/
def charSet? : Tree → Option Ranges
  | chars set => some set
  | bytes set => if isAscii set then some set else none
  | _ => none

def byteSet? : Tree → Option Ranges
  | bytes set => some set
  | chars set => if isAscii set then some set else none
  | _ => none

/-- Single characters, single bytes and classes as alternatives make one class. -/
def mergeClasses? (subs : List Tree) : Option Tree :=
  let singles := fun (xs : List Nat) => Ranges.normalize (xs.map Span.single)
  ((subs.mapM char?).map fun cs => ofChars (singles (cs.map Char.toNat)))
    <|> ((subs.mapM byte?).map fun bs => ofByteSet (singles (bs.map UInt8.toNat)))
    <|> ((subs.mapM charSet?).map fun sets => ofChars (Ranges.normalize sets.flatten))
    <|> ((subs.mapM byteSet?).map fun sets => ofByteSet (Ranges.normalize sets.flatten))

def concat? : Tree → Option (List Tree)
  | concat subs => some subs
  | _ => none

def commonPrefix : List Tree → List Tree → List Tree
  | x :: xs, y :: ys => if x == y then x :: commonPrefix xs ys else []
  | _, _ => []

/-- The factors that all alternatives begin with, and what is left of each alternative. -/
def shared? (subs : List Tree) : Option (List Tree × List (List Tree)) :=
  match subs.mapM concat? with
  | some (first :: rest) =>
    let start := rest.foldl commonPrefix first
    if start.isEmpty then none else some (start, (first :: rest).map (·.drop start.length))
  | _ => none

mutual

def nodes : Tree → Nat
  | repetition _ _ _ sub => nodes sub + 1
  | capture _ _ sub => nodes sub + 1
  | concat subs => nodesOfAll subs + 1
  | alternation subs => nodesOfAll subs + 1
  | _ => 1

def nodesOfAll : List Tree → Nat
  | [] => 0
  | t :: ts => nodes t + nodesOfAll ts

end

/-- Simplifies an alternation; each round moves a node or more in front of it. -/
def ofBranchesFrom : Nat → List Tree → Tree
  | 0, subs => .alternation subs
  | fuel + 1, subs =>
    match subs.flatMap branches with
    | [] => fail
    | [t] => t
    | subs =>
      match mergeClasses? subs with
      | some t => t
      | none =>
        match shared? subs with
        | some (start, rests) => ofFactors (start ++ [ofBranchesFrom fuel (rests.map ofFactors)])
        | none => .alternation subs

/-- Alternatives share their common beginning. -/
def ofBranches (subs : List Tree) : Tree := ofBranchesFrom (nodesOfAll subs + 1) subs

mutual

/-- The tree asks for word edges of Unicode. -/
def hasUnicodeEdge : Tree → Bool
  | look (.word _ unicode) => unicode
  | repetition _ _ _ sub => hasUnicodeEdge sub
  | capture _ _ sub => hasUnicodeEdge sub
  | concat subs => anyUnicodeEdge subs
  | alternation subs => anyUnicodeEdge subs
  | _ => false

def anyUnicodeEdge : List Tree → Bool
  | [] => false
  | t :: ts => hasUnicodeEdge t || anyUnicodeEdge ts

end

end Tree

end InvertedIndex.Pattern
