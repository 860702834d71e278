import InvertedIndex.Error
import InvertedIndex.Pattern.Automaton.Subsets
import InvertedIndex.Pattern.Expr.Parser
import InvertedIndex.Pattern.Tree.OfExpr
import InvertedIndex.Pattern.Tree.Reach

namespace InvertedIndex

/-- A pattern that was found to be well formed: its text and the tree of the anchored text. -/
structure Pattern where
  text : List Char
  tree : Pattern.Tree

namespace Pattern

def parseTree? (text : List Char) : Option Tree := (Expr.parse? text).bind Tree.ofExpr?

/-- The tree of a text without anchors. -/
def bareTree (text : List Char) : Except Error Tree :=
  match parseTree? text with
  | none => .error (.invalidPattern "malformed pattern")
  | some t => .ok t

/-- A pattern matches whole values, so its text is put between anchors. -/
def anchor (text : List Char) : List Char := '^' :: '(' :: '?' :: ':' :: text ++ [')', '$']

def compile (text : List Char) : Except Error Pattern :=
  match bareTree (anchor text) with
  | .error e => .error e
  | .ok tree =>
    if Automaton.fits tree then .ok ⟨text, tree⟩
    else .error (.invalidPattern "pattern is too large")

/-- The pattern of exactly one value, which has to be text. -/
def literal (value : Bytes) : Except Error Pattern :=
  match Utf8.decode value with
  | .error fault => .error (.invalidPattern ("literal is not valid UTF-8: " ++ fault.reason))
  | .ok text => compile (Escape.quote text)

def isMatch (p : Pattern) (value : Bytes) : Bool := p.tree.isMatch value

/-- The tree that an automaton without choices can run on. Such automata are kept small, and take no
word edges of Unicode. -/
def automaton? (text : List Char) : Option Tree :=
  (parseTree? text).filter fun t => !t.hasUnicodeEdge && Automaton.isSmall t

def debugText (p : Pattern) : String := "CompiledRegex(" ++ Text.Quoted.quote p.text ++ ")"

end Pattern

end InvertedIndex
