import InvertedIndex.Pattern.Expr.Bracket
import InvertedIndex.Unicode.Printing

namespace InvertedIndex.Pattern

/-- The inside of a group as far as it is read: the factors of the current branch and the branches
before it, the latest first. -/
structure Body where
  factors : List Expr
  branches : List Expr

namespace Body

def empty : Body := ⟨[], []⟩

def push (b : Body) (factor : Expr) : Body := { b with factors := factor :: b.factors }

def branch (b : Body) : Body := ⟨[], .ofFactors b.factors.reverse :: b.branches⟩

def result (b : Body) : Expr := .ofBranches b.branch.branches.reverse

end Body

structure OpenGroup where
  kind : GroupKind
  outer : Body
  verbose : Bool

/-- Reading a whole pattern. Groups that are still open stand on a stack; each keeps what surrounds it
and the mode to go back to when it closes. -/
structure Reader where
  verbose : Bool
  captures : Nat
  names : List (List Char)
  body : Body
  enclosing : List OpenGroup

namespace Reader

open Cursor

def start : Reader := ⟨false, 0, [], .empty, []⟩

def push (r : Reader) (factor : Expr) : Reader := { r with body := r.body.push factor }

def flagNamed? : Char → Option Flag
  | 'i' => some .caseInsensitive
  | 'm' => some .multiLine
  | 's' => some .dotMatchesNewline
  | 'U' => some .swapGreed
  | 'u' => some .unicode
  | 'R' => some .crlf
  | 'x' => some .verbose
  | _ => none

/-- Flags up to a colon or a closing parenthesis; the answer tells whether it was the latter. A
hyphen switches the flags behind it off, and no flag stands twice. -/
def flags? (on dangling : Bool) (acc : FlagChanges) :
    List Char → Option (FlagChanges × Bool × List Char)
  | [] => none
  | c :: rest =>
    if c = ':' ∨ c = ')' then
      if dangling then none else some (acc.reverse, c = ')', rest)
    else if c = '-' then
      if on then flags? false true acc rest else none
    else
      match flagNamed? c with
      | none => none
      | some flag =>
        if acc.any (·.1 = flag) then none else flags? on false ((flag, on) :: acc) rest

def isNameStart (c : Char) : Bool := c = '_' || Unicode.isAlphabetic c

def isNamePart (c : Char) : Bool :=
  c = '_' || c = '.' || c = '[' || c = ']' || Unicode.isAlphanumeric c

/-- The name of a group, up to `>`. -/
def groupName? (cs : List Char) : Option (List Char × List Char) :=
  match cs.takeWhile (· != '>'), cs.dropWhile (· != '>') with
  | c :: name, '>' :: rest =>
    if isNameStart c && name.all isNamePart then some (c :: name, rest) else none
  | _, _ => none

def withVerbose (verbose : Bool) (changes : FlagChanges) : Bool :=
  (changes.lookup .verbose).getD verbose

def enter (r : Reader) (kind : GroupKind) (verbose : Bool) : Reader :=
  { r with
    verbose
    body := .empty
    enclosing := ⟨kind, r.body, r.verbose⟩ :: r.enclosing }

def enterCapture (r : Reader) (name : Option (List Char)) : Reader :=
  { r with captures := r.captures + 1 }.enter (.capture (r.captures + 1) name) r.verbose

def enterNamed? (r : Reader) (cs : List Char) : Option (Reader × List Char) :=
  match groupName? cs with
  | none => none
  | some (name, rest) =>
    if r.names.contains name then none
    else some ({ r with names := name :: r.names }.enterCapture (some name), rest)

/-- Flags alone change what follows them; with a colon they belong to a group. -/
def openFlags? (r : Reader) (cs : List Char) : Option (Reader × List Char) :=
  match flags? true false [] cs with
  | none => none
  | some (changes, alone, rest) =>
    let verbose := withVerbose r.verbose changes
    if alone then
      if changes.isEmpty then none
      else some ({ r with verbose }.push (.flags changes), rest)
    else some (r.enter (.plain changes) verbose, rest)

/-- Reads what stands behind an opening parenthesis. Looking around is not supported. -/
def open? (r : Reader) (cs : List Char) : Option (Reader × List Char) :=
  match skip r.verbose cs with
  | '?' :: '=' :: _ | '?' :: '!' :: _ | '?' :: '<' :: '=' :: _ | '?' :: '<' :: '!' :: _ => none
  | '?' :: 'P' :: '<' :: rest => r.enterNamed? rest
  | '?' :: '<' :: rest => r.enterNamed? rest
  | '?' :: rest => r.openFlags? rest
  | rest => some (r.enterCapture none, rest)

def close? (r : Reader) : Option Reader :=
  match r.enclosing with
  | [] => none
  | g :: enclosing =>
    some { r with
      verbose := g.verbose
      body := g.outer.push (.group g.kind r.body.result)
      enclosing }

/-- Repeats the last factor; a question mark right behind the operator makes it lazy. -/
def repeat? (r : Reader) (min : Nat) (max : Option Nat) (cs : List Char) :
    Option (Reader × List Char) :=
  let (greedy, rest) := match cs with
    | '?' :: rest => (false, rest)
    | _ => (true, cs)
  match r.body.factors with
  | [] | .flags _ :: _ => none
  | factor :: factors =>
    some ({ r with body := ⟨.repetition min max greedy factor :: factors, r.body.branches⟩ }, rest)

/-- The bounds of a counted repetition, up to and without the closing brace. -/
def bounds? (verbose : Bool) (cs : List Char) : Option (Nat × Option Nat × List Char) := do
  let (min, rest) ← decimal? verbose (skip verbose cs)
  match rest with
  | ',' :: rest =>
    match skip verbose rest with
    | '\x7d' :: rest => some (min, none, '\x7d' :: rest)
    | rest =>
      let (max, rest) ← decimal? verbose rest
      some (min, some max, rest)
  | rest => some (min, some min, rest)

def counted? (r : Reader) (cs : List Char) : Option (Reader × List Char) :=
  match bounds? r.verbose cs with
  | some (min, max, '\x7d' :: rest) =>
    if max.all (min ≤ ·) then r.repeat? min max (skip r.verbose rest) else none
  | _ => none

/-- Reads the part of the pattern that starts with `c`. -/
def step? (r : Reader) (c : Char) (rest : List Char) : Option (Reader × List Char) :=
  match c with
  | '(' => r.open? rest
  | ')' => r.close?.map (·, rest)
  | '|' => some ({ r with body := r.body.branch }, rest)
  | '[' => (Bracket.read? r.verbose rest).map fun (factor, rest) => (r.push factor, rest)
  | '?' => r.repeat? 0 (some 1) rest
  | '*' => r.repeat? 0 none rest
  | '+' => r.repeat? 1 none rest
  | '\x7b' => r.counted? rest
  | '\\' => (Escape.read? r.verbose rest).map fun (p, rest) => (r.push p.toExpr, rest)
  | '.' => some (r.push .dot, rest)
  | '^' => some (r.push (.assertion .lineStart), rest)
  | '$' => some (r.push (.assertion .lineEnd), rest)
  | c => some (r.push (.literal ⟨c, false⟩), rest)

def finish? (r : Reader) : Option Expr :=
  if r.enclosing.isEmpty then some r.body.result else none

def readFrom : Nat → Reader → List Char → Option Expr
  | 0, _, _ => none
  | fuel + 1, r, cs =>
    match skip r.verbose cs with
    | [] => r.finish?
    | c :: rest =>
      match r.step? c rest with
      | none => none
      | some (r, rest) => readFrom fuel r rest

end Reader

/-- The expression that a text stands for, unless it is malformed or nested too deeply. -/
def Expr.parse? (cs : List Char) : Option Expr :=
  match Reader.readFrom (cs.length + 1) .start cs with
  | none => none
  | some e => if e.depth ≤ Expr.maxDepth then some e else none

end InvertedIndex.Pattern
