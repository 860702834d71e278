import InvertedIndex.Pattern.Expr

namespace InvertedIndex.Pattern.Cursor

/-- Drops blanks and comments; `inComment` says whether a comment is open. -/
def dropRemarks : Bool → List Char → List Char
  | _, [] => []
  | true, c :: cs => dropRemarks (c != '\n') cs
  | false, c :: cs =>
    if c = '#' then dropRemarks true cs
    else if Unicode.isBlank c then dropRemarks false cs
    else c :: cs

def skip (verbose : Bool) (cs : List Char) : List Char :=
  if verbose then dropRemarks false cs else cs

/-- Past one character and what does not count behind it. -/
def next (verbose : Bool) (cs : List Char) : List Char := skip verbose cs.tail

/-- The longest run of characters that pass the test, and the rest. -/
def takeRun (verbose : Bool) (p : Char → Bool) : Nat → List Char → List Char × List Char
  | 0, cs => ([], cs)
  | _, [] => ([], [])
  | fuel + 1, c :: cs =>
    if p c then
      let (run, rest) := takeRun verbose p fuel (skip verbose cs)
      (c :: run, rest)
    else ([], c :: cs)

/-- The characters up to a closing brace and the rest behind it. -/
def takeBraced (verbose : Bool) : Nat → List Char → Option (List Char × List Char)
  | 0, _ => none
  | _, [] => none
  | fuel + 1, c :: cs =>
    if c = '\x7d' then some ([], cs)
    else (takeBraced verbose fuel (skip verbose cs)).map fun (body, rest) => (c :: body, rest)

/-- A decimal number of 32 bits, with blanks around it. -/
def decimal? (verbose : Bool) (cs : List Char) : Option (Nat × List Char) :=
  let cs := cs.dropWhile Unicode.isBlank
  let (digits, rest) := takeRun verbose Char.isDigit cs.length cs
  let value := digits.foldl (fun n d => n * 10 + (d.toNat - 48)) 0
  if digits.isEmpty ∨ 0xFFFFFFFF < value then none
  else some (value, rest.dropWhile Unicode.isBlank)

def hexDigit? (c : Char) : Option Nat :=
  if c.isDigit then some (c.toNat - 48)
  else if 'a' ≤ c ∧ c ≤ 'f' then some (c.toNat - 87)
  else if 'A' ≤ c ∧ c ≤ 'F' then some (c.toNat - 55)
  else none

/-- The scalar value written in hexadecimal digits. -/
def scalar? (digits : List Char) : Option Char := do
  if digits.isEmpty then none
  let value ← digits.foldlM (fun n d => (hexDigit? d).map (n * 16 + ·)) 0
  if h : value.isValidChar then some (.ofNatAux value h) else none

/-- Exactly `n` characters, and the rest. -/
def takeFixed (verbose : Bool) : Nat → List Char → Option (List Char × List Char)
  | 0, cs => some ([], cs)
  | _ + 1, [] => none
  | n + 1, c :: cs =>
    (takeFixed verbose n (skip verbose cs)).map fun (taken, rest) => (c :: taken, rest)

end InvertedIndex.Pattern.Cursor
