import InvertedIndex.Pattern
import InvertedIndex.Trigram.Query

namespace InvertedIndex.Trigram

/-- The largest class that is listed. -/
def maxClassSize : Nat := 16

/-- The largest list of strings. -/
def maxStrings : Nat := 64

/-- What is known of the matches of a tree. -/
inductive Knowledge where
  /-- They are among these strings, which ascend. -/
  | exact (strings : List Bytes)
  /-- Every value that contains one satisfies the query. -/
  | inexact (query : Query)
  deriving Repr

namespace Knowledge

def emptyString : Knowledge := .exact [[]]

def toQuery : Knowledge → Query
  | exact strings => Query.simplify (.or (strings.map Query.ofLiteral))
  | inexact query => query

/-- A match of each occurs. -/
def both (k l : Knowledge) : Knowledge := inexact (Query.simplify (.and [k.toQuery, l.toQuery]))

/-- A match of one of them occurs. -/
def either (k l : Knowledge) : Knowledge := inexact (Query.simplify (.or [k.toQuery, l.toQuery]))

/-- One match behind the other. -/
def concat : Knowledge → Knowledge → Knowledge
  | exact xs, exact ys =>
    if xs.length * ys.length ≤ maxStrings then
      exact (Bytes.sorted (xs.flatMap fun x => ys.map (x ++ ·)))
    else both (exact xs) (exact ys)
  | k, l => both k l

def alternate : Knowledge → Knowledge → Knowledge
  | exact xs, exact ys =>
    if xs.length + ys.length ≤ maxStrings then exact (Bytes.sorted (xs ++ ys))
    else either (exact xs) (exact ys)
  | k, l => either k l

/-- The strings of a class, unless it is too large. -/
def ofClass (encode : Nat → Bytes) (set : Ranges) : Knowledge :=
  if maxClassSize < set.size then inexact .all
  else exact (Bytes.sorted (set.flatMap fun r => (List.range' r.lo r.size).map encode))

/-- Only an option keeps a list of strings; what has to occur at least once keeps its query. -/
def repeated (min : Nat) (max : Option Nat) (k : Knowledge) : Knowledge :=
  match min, max, k with
  | 1, some 1, k => k
  | 0, some 1, exact strings =>
    if strings.length < maxStrings then exact (Bytes.sorted ([] :: strings)) else inexact .all
  | 0, _, _ => inexact .all
  | _, _, k => inexact k.toQuery

end Knowledge

open Pattern (Tree)

mutual

/-- What a pattern requires. For small parts the strings that they match are listed; what grows too large
is reduced to a query that all its matches satisfy. -/
def analyze : Tree → Knowledge
  | .empty | .look _ => .emptyString
  | .literal text => .exact [text]
  | .chars set => .ofClass (fun x => Utf8.encode [.ofNat x]) set
  | .bytes set => .ofClass (fun x => [.ofNat x]) set
  | .capture _ _ sub => analyze sub
  | .repetition min max _ sub => (analyze sub).repeated min max
  | .concat subs => analyzeFactors .emptyString subs
  | .alternation subs =>
    match subs with
    | [] => .inexact .none
    | t :: ts => analyzeBranches (analyze t) ts

def analyzeFactors (k : Knowledge) : List Tree → Knowledge
  | [] => k
  | t :: ts => analyzeFactors (k.concat (analyze t)) ts

def analyzeBranches (k : Knowledge) : List Tree → Knowledge
  | [] => k
  | t :: ts => analyzeBranches (k.alternate (analyze t)) ts

end

/-- The query of a pattern text, which is read without anchors. -/
def Query.ofPattern (text : List Char) : Except Error Query :=
  (Pattern.bareTree text).map fun t => (analyze t).toQuery

end InvertedIndex.Trigram
