import InvertedIndex.Unicode.Age
import InvertedIndex.Unicode.Binary
import InvertedIndex.Unicode.Break
import InvertedIndex.Unicode.Category
import InvertedIndex.Unicode.Script

namespace InvertedIndex.Unicode

/-- A set of code points named by a property, or by a property and one of its values. -/
inductive Query where
  | named (name : List Char)
  | valued (property value : List Char)
  deriving DecidableEq, Repr

/-- The form in which names are compared. What is left of `isc` is kept whole, so that it does not
turn into the category `c`. -/
def looseName (cs : List Char) : String :=
  let (led, body) := match cs with
    | i :: s :: rest => if i.toLower = 'i' ∧ s.toLower = 's' then (true, rest) else (false, cs)
    | _ => (false, cs)
  let kept := body.filterMap fun c =>
    if c = ' ' ∨ c = '_' ∨ c = '-' ∨ 0x7F < c.toNat then none else some c.toLower
  if led ∧ kept = ['c'] then "isc" else .ofList kept

def everything : Ranges := [⟨0, 0x10FFFF⟩]

def category? (name : String) : Option Ranges :=
  match name with
  | "any" => some everything
  | "ascii" => some [⟨0, 0x7F⟩]
  | "assigned" => some ((Category.among ["Cn"]).complement .scalars)
  | _ => (Category.named.lookup name).map Category.among

def script? (name : String) : Option Ranges :=
  (Script.named.lookup name).map fun code => Script.runs.having (· = code)

def valued? (property value : String) : Option Ranges :=
  if property = "gc" ∨ property = "generalcategory" then category? value
  else if property = "sc" ∨ property = "script" then script? value
  else if property = "scx" ∨ property = "scriptextensions" then
    (Script.named.lookup value).map fun code => Script.extensions.having (· = code)
  else if property = "age" then (Age.named.lookup value).map Age.upTo
  else if property = "gcb" ∨ property = "graphemeclusterbreak" then
    (Break.namedGrapheme.lookup value).map fun code => Break.grapheme.having (· = code)
  else if property = "wb" ∨ property = "wordbreak" then
    (Break.namedWord.lookup value).map fun code => Break.word.having (· = code)
  else if property = "sb" ∨ property = "sentencebreak" then
    (Break.namedSentence.lookup value).map fun code => Break.sentence.having (· = code)
  else none

/-- A lone name is a yes-or-no property, a category or a script, in this order. -/
def named? (name : String) : Option Ranges :=
  (Binary.named.lookup name).or ((category? name).or (script? name))

def Query.ranges? : Query → Option Ranges
  | .named name => named? (looseName name)
  | .valued property value => valued? (looseName property) (looseName value)

def decimalDigit : Ranges := Category.among ["Nd"]

/-- Letters, marks, decimal digits, connectors and the joiners: what words are made of. -/
def word : Ranges :=
  Ranges.union Binary.alphabetic
    (Ranges.union (Category.among ["Mn", "Mc", "Me", "Nd", "Pc"]) Binary.joinControl)

def isWord (c : Char) : Bool := word.contains c.toNat

def isBlank (c : Char) : Bool := Binary.whiteSpace.contains c.toNat

end InvertedIndex.Unicode
