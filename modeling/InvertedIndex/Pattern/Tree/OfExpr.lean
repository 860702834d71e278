import InvertedIndex.Pattern.Tree
import InvertedIndex.Unicode.Folding

namespace InvertedIndex.Pattern

structure Flags where
  caseInsensitive : Bool
  multiLine : Bool
  dotMatchesNewline : Bool
  swapGreed : Bool
  unicode : Bool
  crlf : Bool
  deriving DecidableEq, Repr

namespace Flags

def default : Flags := ⟨false, false, false, false, true, false⟩

def set (f : Flags) : Flag → Bool → Flags
  | .caseInsensitive, on => { f with caseInsensitive := on }
  | .multiLine, on => { f with multiLine := on }
  | .dotMatchesNewline, on => { f with dotMatchesNewline := on }
  | .swapGreed, on => { f with swapGreed := on }
  | .unicode, on => { f with unicode := on }
  | .crlf, on => { f with crlf := on }
  | .verbose, _ => f

def change (f : Flags) (changes : FlagChanges) : Flags :=
  changes.foldl (fun f (flag, on) => f.set flag on) f

/-- Where Unicode is off, sets are sets of bytes. -/
def alphabet (f : Flags) : Alphabet := if f.unicode then .scalars else .bytes

def ofSet (f : Flags) (set : Ranges) : Tree :=
  if f.unicode then .ofChars set else .ofByteSet set

end Flags

def asciiUpper : Span := ⟨65, 90⟩

def asciiLower : Span := ⟨97, 122⟩

/-- Closes a set under the case of ASCII letters. -/
def foldAscii (set : Ranges) : Ranges :=
  let upper := set.filterMap asciiUpper.inter?
  let lower := set.filterMap asciiLower.inter?
  .normalize (set ++ upper.map (fun r => ⟨r.lo + 32, r.hi + 32⟩)
    ++ lower.map (fun r => ⟨r.lo - 32, r.hi - 32⟩))

namespace Flags

def fold (f : Flags) (set : Ranges) : Ranges :=
  if !f.caseInsensitive then set
  else if f.unicode then Unicode.Folding.close set
  else foldAscii set

/-- Case is folded before a set is negated. -/
def foldNegate (f : Flags) (negated : Bool) (set : Ranges) : Ranges :=
  if negated then (f.fold set).complement f.alphabet else f.fold set

end Flags

def AsciiClass.ranges : AsciiClass → Ranges
  | .alnum => [⟨48, 57⟩, ⟨65, 90⟩, ⟨97, 122⟩]
  | .alpha => [⟨65, 90⟩, ⟨97, 122⟩]
  | .ascii => [⟨0, 127⟩]
  | .blank => [⟨9, 9⟩, ⟨32, 32⟩]
  | .cntrl => [⟨0, 31⟩, ⟨127, 127⟩]
  | .digit => [⟨48, 57⟩]
  | .graph => [⟨33, 126⟩]
  | .lower => [⟨97, 122⟩]
  | .print => [⟨32, 126⟩]
  | .punct => [⟨33, 47⟩, ⟨58, 64⟩, ⟨91, 96⟩, ⟨123, 126⟩]
  | .space => [⟨9, 13⟩, ⟨32, 32⟩]
  | .upper => [⟨65, 90⟩]
  | .word => [⟨48, 57⟩, ⟨65, 90⟩, ⟨95, 95⟩, ⟨97, 122⟩]
  | .xdigit => [⟨48, 57⟩, ⟨65, 70⟩, ⟨97, 102⟩]

namespace Shorthand

def unicode : Shorthand → Ranges
  | .digit => Unicode.decimalDigit
  | .space => Unicode.Binary.whiteSpace
  | .word => Unicode.word

def ascii : Shorthand → Ranges
  | .digit => AsciiClass.digit.ranges
  | .space => AsciiClass.space.ranges
  | .word => AsciiClass.word.ranges

/-- These sets are closed under case already. -/
def ranges (f : Flags) (kind : Shorthand) (negated : Bool) : Ranges :=
  let set := if f.unicode then kind.unicode else kind.ascii
  if negated then set.complement f.alphabet else set

end Shorthand

namespace Flags

/-- Properties name characters, so they have no meaning where Unicode is off. -/
def property? (f : Flags) (query : Unicode.Query) (negated : Bool) : Option Ranges :=
  if f.unicode then query.ranges?.map (f.foldNegate negated) else none

end Flags

namespace Literal

/-- The byte that a literal stands for where that is no character. -/
def rawByte? (f : Flags) (l : Literal) : Option UInt8 :=
  if !f.unicode && l.isByte && 0x7F < l.char.toNat then some (.ofNat l.char.toNat) else none

/-- The member that a literal adds to a class. Byte classes take no characters beyond ASCII. -/
def member? (f : Flags) (l : Literal) : Option Nat :=
  if f.unicode || (l.rawByte? f).isSome || l.char.toNat ≤ 0x7F then some l.char.toNat else none

def tree (f : Flags) (l : Literal) : Tree :=
  match l.rawByte? f with
  | some b => .literal [b]
  | none =>
    let hasVariants :=
      if f.unicode then Unicode.Folding.hasVariants l.char.toNat else l.char.isAlpha
    if f.caseInsensitive && hasVariants then f.ofSet (f.fold (.single l.char.toNat))
    else .literal (Utf8.encode [l.char])

end Literal

namespace ClassExpr

def combine (f : Flags) (kind : SetOp) (lhs rhs : Ranges) : Ranges :=
  match kind with
  | .inter => lhs.inter rhs
  | .diff => lhs.diff f.alphabet rhs
  | .symmDiff => lhs.symmDiff f.alphabet rhs

mutual

/-- The set that the inside of a bracket stands for, before the bracket itself folds its case. -/
def set? (f : Flags) : ClassExpr → Option Ranges
  | empty => some []
  | literal l => (l.member? f).map .single
  | range lo hi =>
    match lo.member? f, hi.member? f with
    | some lo, some hi => some [⟨lo, hi⟩]
    | _, _ => none
  | ascii kind negated => some (f.foldNegate negated kind.ranges)
  | property query negated => f.property? query negated
  | shorthand kind negated => some (kind.ranges f negated)
  | bracketed negated sub => (set? f sub).map (f.foldNegate negated)
  | union items => (setOfAll? f items).map Ranges.normalize
  | op kind lhs rhs =>
    match set? f lhs, set? f rhs with
    | some lhs, some rhs => some (combine f kind (f.fold lhs) (f.fold rhs))
    | _, _ => none

def setOfAll? (f : Flags) : List ClassExpr → Option Ranges
  | [] => some []
  | item :: items =>
    match set? f item, setOfAll? f items with
    | some set, some rest => some (set ++ rest)
    | _, _ => none

end

end ClassExpr

namespace Flags

/-- What a dot leaves out. -/
def dotExcept (f : Flags) : Ranges :=
  if f.dotMatchesNewline then []
  else if f.crlf then [⟨10, 10⟩, ⟨13, 13⟩]
  else [⟨10, 10⟩]

def look (f : Flags) : Assertion → Look
  | .lineStart => if f.multiLine then .lineStart f.crlf else .textStart
  | .lineEnd => if f.multiLine then .lineEnd f.crlf else .textEnd
  | .textStart => .textStart
  | .textEnd => .textEnd
  | .word edge => .word edge f.unicode

end Flags

namespace Tree

mutual

/-- The tree of an expression, and the flags that hold behind it. -/
def resolve? (f : Flags) : Expr → Option (Tree × Flags)
  | .empty => some (.empty, f)
  | .flags changes => some (.empty, f.change changes)
  | .literal l => some (l.tree f, f)
  | .dot => some (f.ofSet (f.dotExcept.complement f.alphabet), f)
  | .assertion kind => some (.look (f.look kind), f)
  | .property query negated => (f.property? query negated).map fun set => (f.ofSet set, f)
  | .shorthand kind negated => some (f.ofSet (kind.ranges f negated), f)
  | .bracketed negated sub => (sub.set? f).map fun set => (f.ofSet (f.foldNegate negated set), f)
  | .repetition min max greedy sub =>
    (resolve? f sub).map fun (t, f) => (t.repeated min max (greedy != f.swapGreed), f)
  | .group (.capture index name) sub =>
    (resolve? f sub).map fun (t, _) => (.capture index name t, f)
  | .group (.plain changes) sub => (resolve? (f.change changes) sub).map fun (t, _) => (t, f)
  | .concat subs => (resolveAll? f subs).map fun (ts, f) => (.ofFactors ts, f)
  | .alternation subs => (resolveAll? f subs).map fun (ts, f) => (.ofBranches ts, f)

def resolveAll? (f : Flags) : List Expr → Option (List Tree × Flags)
  | [] => some ([], f)
  | e :: es =>
    match resolve? f e with
    | none => none
    | some (t, f) => (resolveAll? f es).map fun (ts, f) => (t :: ts, f)

end

/-- The tree of a pattern. A change of flags holds to the end of the group it stands in, also across
alternatives. -/
def ofExpr? (e : Expr) : Option Tree := (resolve? .default e).map Prod.fst

end Tree

end InvertedIndex.Pattern
