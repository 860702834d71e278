import InvertedIndex.Pattern.Expr.Escape

namespace InvertedIndex.Pattern.Bracket

open Cursor

/-- A bracket that is not closed yet. `items` has the latest item first; they are the right side of
the operation that is pending. -/
structure Open where
  negated : Bool
  pending : Option (SetOp × ClassExpr)
  items : List ClassExpr

namespace Open

def push (b : Open) (item : ClassExpr) : Open := { b with items := item :: b.items }

def result (b : Open) : ClassExpr :=
  let items := ClassExpr.ofItems b.items.reverse
  match b.pending with
  | none => items
  | some (kind, lhs) => .op kind lhs items

/-- What has been read becomes the left side of an operation. -/
def operate (b : Open) (kind : SetOp) : Open := ⟨b.negated, some (kind, b.result), []⟩

end Open

def char (c : Char) : ClassExpr := .literal ⟨c, false⟩

/-- Reads what stands right behind an opening: a negation, then hyphens or one closing bracket,
which stand for themselves there. -/
def openAt (verbose : Bool) (cs : List Char) : Open × List Char :=
  let cs := skip verbose cs
  let (negated, cs) := match cs with
    | '^' :: _ => (true, next verbose cs)
    | _ => (false, cs)
  let (hyphens, cs) := takeRun verbose (· = '-') cs.length cs
  match hyphens, cs with
  | [], ']' :: rest => (⟨negated, none, [char ']']⟩, rest)
  | _, _ => (⟨negated, none, hyphens.map char⟩, cs)

def asciiNamed? (name : List Char) : Option AsciiClass :=
  match String.ofList name with
  | "alnum" => some .alnum
  | "alpha" => some .alpha
  | "ascii" => some .ascii
  | "blank" => some .blank
  | "cntrl" => some .cntrl
  | "digit" => some .digit
  | "graph" => some .graph
  | "lower" => some .lower
  | "print" => some .print
  | "punct" => some .punct
  | "space" => some .space
  | "upper" => some .upper
  | "word" => some .word
  | "xdigit" => some .xdigit
  | _ => none

/-- A class by name, between `[:` and `:]`. -/
def ascii? : List Char → Option (ClassExpr × List Char)
  | '[' :: ':' :: cs =>
    let (negated, cs) := match cs with
      | '^' :: rest => (true, rest)
      | _ => (false, cs)
    match cs.dropWhile (· != ':') with
    | ':' :: ']' :: rest =>
      (asciiNamed? (cs.takeWhile (· != ':'))).map fun kind => (.ascii kind negated, rest)
    | _ => none
  | _ => none

def primitive? (verbose : Bool) : List Char → Option (Primitive × List Char)
  | [] => none
  | '\\' :: rest => Escape.read? verbose rest
  | c :: rest => some (.literal ⟨c, false⟩, rest)

/-- The character that decides whether a hyphen makes a range. In verbose mode blanks and one `#` are
passed over; if nothing else follows, the first character decides. -/
def glance (verbose : Bool) (cs : List Char) : Option Char :=
  if verbose then
    let rest := match cs.dropWhile Unicode.isBlank with
      | '#' :: rest => rest.dropWhile Unicode.isBlank
      | rest => rest
    rest.head?.or cs.head?
  else cs.head?

/-- One item, or a range between two characters. -/
def item? (verbose : Bool) (cs : List Char) : Option (ClassExpr × List Char) := do
  let (first, cs) ← primitive? verbose cs
  match skip verbose cs with
  | '-' :: rest =>
    if glance verbose rest = some ']' ∨ glance verbose rest = some '-' then
      (first.toClassExpr?).map (·, '-' :: rest)
    else
      let (second, rest) ← primitive? verbose (skip verbose rest)
      let lo ← first.toLiteral?
      let hi ← second.toLiteral?
      if lo.char ≤ hi.char then some (.range lo hi, rest) else none
  | rest => (first.toClassExpr?).map (·, rest)

/-- Reads on in the bracket `b`, which stands inside the brackets `outer`. -/
def readFrom (verbose : Bool) : Nat → List Open → Open → List Char → Option (Expr × List Char)
  | 0, _, _, _ => none
  | fuel + 1, outer, b, cs =>
    match skip verbose cs with
    | [] => none
    | '&' :: '&' :: rest => readFrom verbose fuel outer (b.operate .inter) rest
    | '-' :: '-' :: rest => readFrom verbose fuel outer (b.operate .diff) rest
    | '~' :: '~' :: rest => readFrom verbose fuel outer (b.operate .symmDiff) rest
    | ']' :: rest =>
      match outer with
      | [] => some (.bracketed b.negated b.result, rest)
      | o :: outer => readFrom verbose fuel outer (o.push (.bracketed b.negated b.result)) rest
    | '[' :: rest =>
      match ascii? ('[' :: rest) with
      | some (item, rest) => readFrom verbose fuel outer (b.push item) rest
      | none =>
        let (inner, rest) := openAt verbose rest
        readFrom verbose fuel (b :: outer) inner rest
    | rest =>
      match item? verbose rest with
      | some (item, rest) => readFrom verbose fuel outer (b.push item) rest
      | none => none

/-- Reads a class whose opening bracket is already behind. -/
def read? (verbose : Bool) (cs : List Char) : Option (Expr × List Char) :=
  let (b, rest) := openAt verbose cs
  readFrom verbose (cs.length + 1) [] b rest

end InvertedIndex.Pattern.Bracket
