import InvertedIndex.Unicode.Query

namespace InvertedIndex.Pattern

inductive Flag where
  | caseInsensitive
  | multiLine
  | dotMatchesNewline
  | swapGreed
  | unicode
  | crlf
  | verbose
  deriving DecidableEq, Repr

/-- Flags in the order in which they are written, each with its new value. -/
abbrev FlagChanges := List (Flag × Bool)

/-- A character of a pattern. `isByte` marks two hexadecimal digits, which stand for a byte where
Unicode is off. -/
structure Literal where
  char : Char
  isByte : Bool
  deriving DecidableEq, Repr

inductive WordEdge where
  | boundary
  | inside
  | start
  | stop
  | startHalf
  | stopHalf
  deriving DecidableEq, Repr

inductive Assertion where
  | lineStart
  | lineEnd
  | textStart
  | textEnd
  | word (edge : WordEdge)
  deriving DecidableEq, Repr

inductive Shorthand where
  | digit
  | space
  | word
  deriving DecidableEq, Repr

inductive AsciiClass where
  | alnum | alpha | ascii | blank | cntrl | digit | graph
  | lower | print | punct | space | upper | word | xdigit
  deriving DecidableEq, Repr

inductive SetOp where
  | inter
  | diff
  | symmDiff
  deriving DecidableEq, Repr

/-- The inside of a bracket. -/
inductive ClassExpr where
  | empty
  | literal (l : Literal)
  | range (lo hi : Literal)
  | ascii (kind : AsciiClass) (negated : Bool)
  | property (query : Unicode.Query) (negated : Bool)
  | shorthand (kind : Shorthand) (negated : Bool)
  | bracketed (negated : Bool) (sub : ClassExpr)
  | union (items : List ClassExpr)
  | op (kind : SetOp) (lhs rhs : ClassExpr)
  deriving Repr

inductive GroupKind where
  | capture (index : Nat) (name : Option (List Char))
  | plain (changes : FlagChanges)
  deriving DecidableEq, Repr

/-- What the text of a pattern stands for, before flags are applied and anything is simplified. -/
inductive Expr where
  | empty
  | flags (changes : FlagChanges)
  | literal (l : Literal)
  | dot
  | assertion (kind : Assertion)
  | property (query : Unicode.Query) (negated : Bool)
  | shorthand (kind : Shorthand) (negated : Bool)
  | bracketed (negated : Bool) (sub : ClassExpr)
  | repetition (min : Nat) (max : Option Nat) (greedy : Bool) (sub : Expr)
  | group (kind : GroupKind) (sub : Expr)
  | concat (subs : List Expr)
  | alternation (subs : List Expr)
  deriving Repr

namespace ClassExpr

/-- One item stands for itself. -/
def ofItems : List ClassExpr → ClassExpr
  | [] => .empty
  | [item] => item
  | items => .union items

mutual

def depth : ClassExpr → Nat
  | bracketed _ sub => depth sub + 1
  | union items => depthOfAll items + 1
  | op _ lhs rhs => max (depth lhs) (depth rhs) + 1
  | _ => 0

def depthOfAll : List ClassExpr → Nat
  | [] => 0
  | item :: items => max (depth item) (depthOfAll items)

end

end ClassExpr

namespace Expr

/-- One factor stands for itself. -/
def ofFactors : List Expr → Expr
  | [] => .empty
  | [factor] => factor
  | factors => .concat factors

/-- One branch stands for itself. -/
def ofBranches : List Expr → Expr
  | [] => .empty
  | [branch] => branch
  | branches => .alternation branches

mutual

/-- How deeply brackets, groups, repetitions and lists of parts are nested. -/
def depth : Expr → Nat
  | bracketed _ sub => sub.depth + 1
  | repetition _ _ _ sub => depth sub + 1
  | group _ sub => depth sub + 1
  | concat subs => depthOfAll subs + 1
  | alternation subs => depthOfAll subs + 1
  | _ => 0

def depthOfAll : List Expr → Nat
  | [] => 0
  | sub :: subs => max (depth sub) (depthOfAll subs)

end

/-- The deepest nesting that is still read. -/
def maxDepth : Nat := 250

end Expr

end InvertedIndex.Pattern
