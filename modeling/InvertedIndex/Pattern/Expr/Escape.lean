import InvertedIndex.Pattern.Expr.Cursor

namespace InvertedIndex.Pattern

/-- A part of a pattern that needs no operand. -/
inductive Primitive where
  | literal (l : Literal)
  | dot
  | assertion (kind : Assertion)
  | property (query : Unicode.Query) (negated : Bool)
  | shorthand (kind : Shorthand) (negated : Bool)
  deriving Repr

namespace Primitive

def toExpr : Primitive → Expr
  | literal l => .literal l
  | dot => .dot
  | assertion kind => .assertion kind
  | property query negated => .property query negated
  | shorthand kind negated => .shorthand kind negated

/-- In a bracket there is no place for assertions. -/
def toClassExpr? : Primitive → Option ClassExpr
  | literal l => some (.literal l)
  | property query negated => some (.property query negated)
  | shorthand kind negated => some (.shorthand kind negated)
  | dot | assertion _ => none

def toLiteral? : Primitive → Option Literal
  | literal l => some l
  | _ => none

end Primitive

namespace Escape

open Cursor

/-- Characters with a meaning of their own, which a backslash takes away. -/
def isMeta (c : Char) : Bool :=
  ['\\', '.', '+', '*', '?', '(', ')', '|', '[', ']', '\x7b', '\x7d', '^', '$', '#', '&', '-', '~'].contains c

/-- Punctuation and control characters of ASCII stand for themselves behind a backslash. -/
def isEscapable (c : Char) : Bool :=
  isMeta c || (c.toNat < 0x80 && !c.isAlphanum && c != '<' && c != '>')

def plain (c : Char) : Primitive := .literal ⟨c, false⟩

/-- A scalar value of a fixed number of digits, or of any number of digits in braces. -/
def hex? (verbose : Bool) (digits : Nat) (cs : List Char) : Option (Literal × List Char) :=
  match next verbose cs with
  | [] => none
  | c :: rest =>
    if c = '\x7b' then do
      let (body, rest) ← takeBraced verbose (rest.length + 1) (skip verbose rest)
      let char ← scalar? body
      some (⟨char, false⟩, skip verbose rest)
    else do
      let (body, rest) ← takeFixed verbose digits (c :: rest)
      let char ← scalar? body
      some (⟨char, digits = 2⟩, rest)

/-- A property and its value are separated by `!=`, a colon or `=`, looked for in this order. The
first of them asks for what has another value, which the second part of the answer says. -/
def query (name : List Char) : Unicode.Query × Bool :=
  match splitAtUnequal name with
  | some (property, value) => (.valued property value, true)
  | none =>
    if name.contains ':' then (splitAt ':' name, false)
    else if name.contains '=' then (splitAt '=' name, false)
    else (.named name, false)
where
  splitAtUnequal : List Char → Option (List Char × List Char)
    | '!' :: '=' :: value => some ([], value)
    | c :: cs => (splitAtUnequal cs).map fun (property, value) => (c :: property, value)
    | [] => none
  splitAt (mark : Char) (name : List Char) : Unicode.Query :=
    .valued (name.takeWhile (· != mark)) (name.dropWhile (· != mark)).tail

def property? (verbose negated : Bool) (cs : List Char) : Option (Primitive × List Char) :=
  match next verbose cs with
  | [] => none
  | c :: rest =>
    if c = '\x7b' then do
      let (name, rest) ← takeBraced verbose (rest.length + 1) (skip verbose rest)
      let (query, unequal) := query name
      some (.property query (negated != unequal), rest)
    else if c = '\\' then none
    else some (.property (.named [c]) negated, skip verbose rest)

def edgeNamed? (name : List Char) : Option WordEdge :=
  match String.ofList name with
  | "start" => some .start
  | "end" => some .stop
  | "start-half" => some .startHalf
  | "end-half" => some .stopHalf
  | _ => none

/-- A kind of word edge in braces. Braces that cannot hold one are left for a repetition. -/
def edge? (verbose : Bool) (cs : List Char) : Option (WordEdge × List Char) :=
  match cs with
  | '\x7b' :: _ =>
    match next verbose cs with
    | [] => none
    | c :: rest =>
      let isNameChar := fun (c : Char) => c.isAlpha || c = '-'
      if isNameChar c then
        match takeRun verbose isNameChar (rest.length + 1) (c :: rest) with
        | (name, '\x7d' :: rest) => (edgeNamed? name).map (·, rest)
        | _ => none
      else some (.boundary, cs)
  | _ => some (.boundary, cs)

/-- Reads what follows a backslash. -/
def read? (verbose : Bool) (cs : List Char) : Option (Primitive × List Char) :=
  match cs with
  | [] => none
  | c :: rest =>
    if c.isDigit then none
    else if c = 'x' then (hex? verbose 2 cs).map fun (l, rest) => (.literal l, rest)
    else if c = 'u' then (hex? verbose 4 cs).map fun (l, rest) => (.literal l, rest)
    else if c = 'U' then (hex? verbose 8 cs).map fun (l, rest) => (.literal l, rest)
    else if c = 'p' then property? verbose false cs
    else if c = 'P' then property? verbose true cs
    else if isEscapable c then some (plain c, rest)
    else match c with
      | 'd' => some (.shorthand .digit false, rest)
      | 'D' => some (.shorthand .digit true, rest)
      | 's' => some (.shorthand .space false, rest)
      | 'S' => some (.shorthand .space true, rest)
      | 'w' => some (.shorthand .word false, rest)
      | 'W' => some (.shorthand .word true, rest)
      | 'a' => some (plain '\x07', rest)
      | 'f' => some (plain '\x0c', rest)
      | 't' => some (plain '\t', rest)
      | 'n' => some (plain '\n', rest)
      | 'r' => some (plain '\r', rest)
      | 'v' => some (plain '\x0b', rest)
      | 'A' => some (.assertion .textStart, rest)
      | 'z' => some (.assertion .textEnd, rest)
      | 'b' => (edge? verbose rest).map fun (edge, rest) => (.assertion (.word edge), rest)
      | 'B' => some (.assertion (.word .inside), rest)
      | '<' => some (.assertion (.word .start), rest)
      | '>' => some (.assertion (.word .stop), rest)
      | _ => none

/-- The pattern text in which every character of `cs` stands for itself. -/
def quote (cs : List Char) : List Char :=
  cs.flatMap fun c => if isMeta c then ['\\', c] else [c]

end Escape

end InvertedIndex.Pattern
