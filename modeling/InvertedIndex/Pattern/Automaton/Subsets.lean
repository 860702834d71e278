import InvertedIndex.Pattern.Automaton
import Std.Data.HashSet

namespace InvertedIndex.Pattern.Automaton

def isWordByte : Option UInt8 → Bool
  | some b => Look.isWordByte b
  | none => false

/-- What a condition asks for can be known of the byte before a place. -/
structure Before where
  textStart : Bool
  /-- Line feeds end lines. -/
  lineStart : Bool
  /-- Carriage returns end lines too. -/
  lineStartCrlf : Bool
  noWord : Bool
  deriving DecidableEq, Hashable, Repr

namespace Before

def nothing : Before := ⟨false, false, false, false⟩

def holds (x : Before) : Look → Bool
  | .textStart => x.textStart
  | .lineStart false => x.lineStart
  | .lineStart true => x.lineStartCrlf
  | .word .startHalf _ => x.noWord
  | _ => false

end Before

/-- A state of the automaton without choices. -/
structure Subset where
  /-- What was read up to the byte before is a match. -/
  accepts : Bool
  /-- The byte before was one of a word. -/
  afterWord : Bool
  /-- The byte before was a carriage return. -/
  afterReturn : Bool
  before : Before
  /-- The states that are not merely led through, by precedence. -/
  members : List Nat
  deriving DecidableEq, Hashable, Repr

namespace Subset

def dead : Subset := ⟨false, false, false, .nothing, []⟩

end Subset

/-- Conditions that the byte behind a place decides, where no byte stands for the end of the text. -/
def holdsAhead (s : Subset) (next : Option UInt8) : Look → Bool
  | .textEnd => next.isNone
  | .lineEnd false => next.isNone || next = some 10
  | .lineEnd true => next.isNone || next = some 13 || (next = some 10 && !s.afterReturn)
  | .lineStart true => s.afterReturn && next != some 10
  | .word .boundary _ => s.afterWord != isWordByte next
  | .word .inside _ => s.afterWord == isWordByte next
  | .word .start _ => !s.afterWord && isWordByte next
  | .word .stop _ => s.afterWord && !isWordByte next
  | .word .stopHalf _ => !isWordByte next
  | _ => false

/-- A drawn automaton, and how far its conditions look. -/
structure Machine where
  states : Array State
  start : Nat
  looks : List Look

namespace Machine

def ofDraft (d : Draft) (start : Nat) : Machine where
  states := d.states
  start
  looks := d.states.toList.filterMap fun
    | .look k _ => some k
    | _ => none

def looksAtLines (m : Machine) : Bool :=
  m.looks.any fun k => k = .lineStart false || k = .lineEnd false

def looksAtReturns (m : Machine) : Bool :=
  m.looks.any fun k => k = .lineStart true || k = .lineEnd true

def looksAtWords (m : Machine) : Bool :=
  m.looks.any fun
    | .word .. => true
    | _ => false

/-- States that were met, and the members among them, the latest first. -/
structure Closure where
  seen : Std.HashSet Nat
  members : List Nat

def Closure.empty : Closure := ⟨∅, []⟩

/-- Follows what leads on without a byte, depth first and by precedence. The first argument bounds
the number of steps. -/
def closeFrom (m : Machine) (holds : Look → Bool) : Nat → List Nat → Closure → Closure
  | 0, _, c => c
  | _, [], c => c
  | n + 1, i :: stack, c =>
    if c.seen.contains i then closeFrom m holds n stack c
    else
      let seen := c.seen.insert i
      match m.states[i]? with
      | some (.pass next) => closeFrom m holds n (next :: stack) ⟨seen, c.members⟩
      | some (.branch isLazy nexts) =>
        closeFrom m holds n ((if isLazy then nexts else nexts.reverse) ++ stack) ⟨seen, c.members⟩
      | some (.look k next) =>
        closeFrom m holds n (if holds k then next :: stack else stack) ⟨seen, i :: c.members⟩
      | some (.arrows []) => closeFrom m holds n stack ⟨seen, c.members⟩
      | _ => closeFrom m holds n stack ⟨seen, i :: c.members⟩

def maxSteps : Nat := Draft.maxMemory

def close (m : Machine) (holds : Look → Bool) (c : Closure) (i : Nat) : Closure :=
  closeFrom m holds maxSteps [i] c

def isLook (m : Machine) (i : Nat) : Bool :=
  match m.states[i]? with
  | some (.look ..) => true
  | _ => false

/-- What is known of the byte before matters only where a member asks for it. -/
def subset (m : Machine) (accepts afterWord afterReturn : Bool) (before : Before) (c : Closure) :
    Subset :=
  let members := c.members.reverse
  ⟨accepts, afterWord, afterReturn, if members.any m.isLook then before else .nothing, members⟩

/-- Conditions among the members hold that were not known to. -/
def opens (m : Machine) (s : Subset) (next : Option UInt8) : Bool :=
  s.members.any fun i =>
    match m.states[i]? with
    | some (.look k _) => holdsAhead s next k && !s.before.holds k
    | _ => false

/-- Members of a subset, and what else can be reached once the byte behind is known. -/
def membersAt (m : Machine) (s : Subset) (next : Option UInt8) : List Nat :=
  if m.opens s next then
    let holds (k : Look) : Bool := s.before.holds k || holdsAhead s next k
    (s.members.foldl (m.close holds) .empty).members.reverse
  else s.members

/-- Where a byte leads from a state. -/
def arrow? (m : Machine) (i : Nat) (b : UInt8) : Option Nat :=
  match m.states[i]? with
  | some (.arrow a) => if a.lo ≤ b ∧ b ≤ a.hi then some a.next else none
  | some (.arrows as) => (as.find? fun a => a.lo ≤ b && b ≤ a.hi).map Arrow.next
  | _ => none

def isStop (m : Machine) (i : Nat) : Bool := m.states[i]? = some .stop

/-- The subset that a byte leads to, or the end of the text. -/
def step (m : Machine) (s : Subset) (next : Option UInt8) : Subset :=
  let members := m.membersAt s next
  let before : Before :=
    ⟨false, m.looksAtLines && next = some 10, m.looksAtReturns && next = some 10,
      m.looksAtWords && !isWordByte next⟩
  let c := match next with
    | some b => (members.filterMap (m.arrow? · b)).foldl (m.close before.holds) .empty
    | none => .empty
  let isAlive := !c.seen.isEmpty
  m.subset (members.any m.isStop) (isAlive && m.looksAtWords && isWordByte next)
    (isAlive && m.looksAtReturns && next = some 13) before c

/-- The subset at the start of a text, if what is said of the byte before it is true. -/
def startAt (m : Machine) (afterWord afterReturn : Bool) (before : Before) : Subset :=
  m.subset false afterWord afterReturn before (m.close before.holds .empty m.start)

/-- Conditions that can be met before the first byte. -/
def firstLooks (m : Machine) : List Look :=
  (m.close (fun _ => true) .empty m.start).members.filterMap fun (i : Nat) =>
    match m.states[i]? with
    | some (.look k _) => some k
    | _ => none

/-- A text may start behind a word, behind another text or behind a line, as far as a condition asks. -/
def starts (m : Machine) : List Subset :=
  let first := m.firstLooks
  let other : Before := ⟨false, false, false, m.looksAtWords⟩
  let isAnchor : Look → Bool
    | .word .. => false
    | _ => true
  [m.startAt false false other]
    ++ (if first.all isAnchor then [] else [m.startAt m.looksAtWords false .nothing])
    ++ (if first.any isAnchor then
        [m.startAt false false ⟨true, m.looksAtLines, m.looksAtReturns, m.looksAtWords⟩,
          m.startAt false false ⟨false, m.looksAtLines, m.looksAtReturns, m.looksAtWords⟩,
          m.startAt false m.looksAtReturns other]
      else [])

/-- The last bytes of classes that nothing in the automaton tells apart. -/
def classEnds (m : Machine) : Std.HashSet UInt8 :=
  let mark (ends : Std.HashSet UInt8) (lo hi : UInt8) : Std.HashSet UInt8 :=
    (if lo = 0 then ends else ends.insert (lo - 1)).insert hi
  let ends : Std.HashSet UInt8 := m.states.foldl (fun ends s =>
    match s with
    | .arrow a => mark ends a.lo a.hi
    | .arrows as => as.foldl (fun ends a => mark ends a.lo a.hi) ends
    | _ => ends) ∅
  let ends := if m.looksAtLines || m.looksAtReturns then mark ends 10 10 else ends
  let ends := if m.looksAtReturns then mark ends 13 13 else ends
  let ends := if m.looksAtWords then
      Look.isWordByte.AsciiWord.foldl (fun ends r => mark ends (.ofNat r.lo) (.ofNat r.hi)) ends
    else ends
  ends.insert 255

/-- The byte of each class that stands for it. -/
def classes (m : Machine) : List UInt8 :=
  let ends := m.classEnds
  ((List.range 256).map UInt8.ofNat).filter ends.contains

/-- The number of states that stay when those are dropped that only lead to one other. -/
def numbers (m : Machine) : Array Nat :=
  (m.states.foldl (fun (n, numbers) s =>
    match s with
    | .pass _ | .branch _ [_] => (n, numbers.push n)
    | _ => (n + 1, numbers.push n)) (0, #[])).2

end Machine

/-- The bytes that a difference takes, seven bits of it and of its sign in each. -/
def differenceSize (before after : Nat) : Nat :=
  let n := if before ≤ after then 2 * (after - before) else 2 * (before - after) - 1
  if n < 0x80 then 1 else if n < 0x4000 then 2 else if n < 0x200000 then 3 else 4

/-- The bytes of a list of numbers, each as the difference from the one before. -/
def differencesSize (before : Nat) : List Nat → Nat
  | [] => 0
  | n :: ns => differenceSize before n + differencesSize n ns

/-- Subsets that were found, and how many bytes their members take. -/
structure Census where
  found : Std.HashSet Subset
  bytes : Nat

namespace Census

def empty : Census := ⟨Std.HashSet.emptyWithCapacity.insert .dead, 0⟩

/-- The bytes of a subset beside its members. -/
def headerSize : Nat := 9

def maxMemory : Nat := 1024 * 1024

/-- The first power of two from `n` on, for numbers up to 512. -/
def rowSize (n : Nat) : Nat := ([2, 4, 8, 16, 32, 64, 128, 256].find? (n ≤ ·)).getD 512

/-- Both the table of transitions and what was kept to build it stay within the limit. The table has
a row for each subset and one more, with a column for each class and the end of the text. -/
def isWithin (c : Census) (classes : Nat) : Bool :=
  let rows := c.found.size + 1
  rows * rowSize (classes + 1) * 4 + 52 ≤ maxMemory && rows * 36 + c.bytes ≤ maxMemory

def add (m : Machine) (numbers : Array Nat) (s : Subset) (c : Census) : Census :=
  ⟨c.found.insert s,
    c.bytes + headerSize + differencesSize 0 (s.members.map fun i => numbers.getD i m.states.size)⟩

/-- Adds subsets with all that bytes lead to from them, unless there are too many. The first argument
bounds the number of steps. -/
def explore (m : Machine) (numbers : Array Nat) (classes : List UInt8) :
    Nat → List Subset → Census → Option Census
  | 0, _, _ => none
  | _, [], c => some c
  | n + 1, s :: stack, c =>
    if c.found.contains s then explore m numbers classes n stack c
    else
      let c := c.add m numbers s
      if c.isWithin classes.length then
        let nexts := m.step s none :: classes.map fun b => m.step s (some b)
        explore m numbers classes n (nexts.filter (!c.found.contains ·) ++ stack) c
      else none

end Census

/-- The tree has a small automaton without choices. -/
def isSmall (t : Tree) : Bool :=
  match (whole (.forward false) t).run .empty with
  | none => false
  | some (a, d) =>
    let m := Machine.ofDraft d a.start
    (Census.explore m m.numbers m.classes (Census.maxMemory * 512) m.starts .empty).isSome

end InvertedIndex.Pattern.Automaton
