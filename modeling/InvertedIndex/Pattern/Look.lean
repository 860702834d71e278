import InvertedIndex.Pattern.Expr
import InvertedIndex.Pattern.Subject
import InvertedIndex.Utf8

namespace InvertedIndex.Pattern

/-- Conditions on a place between two bytes of a text. -/
inductive Look where
  | textStart
  | textEnd
  | lineStart (crlf : Bool)
  | lineEnd (crlf : Bool)
  | word (edge : WordEdge) (unicode : Bool)
  deriving DecidableEq, Repr

namespace Look

/-- Line feeds end lines; with `crlf` carriage returns do so too, and a pair of them is one end. -/
def isLineStart (crlf : Bool) (s : Subject) (i : Nat) : Bool :=
  i = 0 || s.byteBefore? i = some 10
    || (crlf && s.byteBefore? i = some 13 && s.byteAt? i != some 10)

def isLineEnd (crlf : Bool) (s : Subject) (i : Nat) : Bool :=
  i = s.length
    || (if crlf then
          s.byteAt? i = some 13 || (s.byteAt? i = some 10 && s.byteBefore? i != some 13)
        else s.byteAt? i = some 10)

/-- What stands beside a place. Behind a word edge everything but a word character is alike; bytes
that are no character make some edges undefined. -/
inductive Side where
  | border
  | word
  | other
  | invalid
  deriving DecidableEq, Repr

def Side.ofHead (isWord : Char → Bool) : Option Utf8.Head → Side
  | none => .border
  | some (.char c _) => if isWord c then .word else .other
  | some _ => .invalid

def isWordByte (b : UInt8) : Bool := AsciiWord.contains b.toNat
where
  AsciiWord : Ranges := [⟨48, 57⟩, ⟨65, 90⟩, ⟨95, 95⟩, ⟨97, 122⟩]

def Side.ofByte : Option UInt8 → Side
  | none => .border
  | some b => if isWordByte b then .word else .other

def sideAfter (unicode : Bool) (s : Subject) (i : Nat) : Side :=
  if unicode then .ofHead Unicode.isWord (Utf8.head? (s.rest i)) else .ofByte (s.byteAt? i)

/-- Steps back over continuation bytes, at most `steps` of them. -/
def stepBack (s : Subject) : Nat → Nat → Nat
  | 0, i => i
  | steps + 1, i =>
    if 0 < i ∧ (s.byteAt? i).any Utf8.isContinuation then stepBack s steps (i - 1) else i

/-- The character before a place is looked for at the nearest byte that may start one. -/
def sideBefore (unicode : Bool) (s : Subject) (i : Nat) : Side :=
  if i = 0 then .border
  else if unicode then .ofHead Unicode.isWord (Utf8.head? (s.slice (stepBack s 3 (i - 1)) i))
  else .ofByte (s.byteBefore? i)

def isEdge (edge : WordEdge) (before after : Side) : Bool :=
  match edge with
  | .boundary => (before = .word) != (after = .word)
  | .inside => before != .invalid && after != .invalid && (before = .word) == (after = .word)
  | .start => before != .word && after = .word
  | .stop => before = .word && after != .word
  | .startHalf => before != .invalid && before != .word
  | .stopHalf => after != .invalid && after != .word

def holds (k : Look) (s : Subject) (i : Nat) : Bool :=
  match k with
  | textStart => i = 0
  | textEnd => i = s.length
  | lineStart crlf => isLineStart crlf s i
  | lineEnd crlf => isLineEnd crlf s i
  | word edge unicode => isEdge edge (sideBefore unicode s i) (sideAfter unicode s i)

end Look

end InvertedIndex.Pattern
