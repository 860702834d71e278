import InvertedIndex.Pattern.Look
import Std.Data.HashMap

namespace InvertedIndex.Pattern.Automaton

/-- Leads to a state when a byte of a range is read. -/
structure Arrow where
  lo : UInt8
  hi : UInt8
  next : Nat
  deriving DecidableEq, Repr

inductive State where
  /-- Leads on without a condition. -/
  | pass (next : Nat)
  | arrow (a : Arrow)
  | arrows (as : List Arrow)
  | look (k : Look) (next : Nat)
  /-- Leads to several states, the last one added at the front of the list. The first one added takes
  precedence, or the last one if the branch is lazy. -/
  | branch (isLazy : Bool) (nexts : List Nat)
  | stop
  deriving DecidableEq, Repr

namespace State

def arrowSize : Nat := 8

def branchSize : Nat := 4

/-- The bytes that the transitions take. -/
def transitionBytes : State → Nat
  | arrows as => as.length * arrowSize
  | branch _ nexts => nexts.length * branchSize
  | _ => 0

/-- Leads to `next`, which a branch has as one more. -/
def leadTo (next : Nat) : State → State
  | pass _ => pass next
  | arrow a => arrow { a with next }
  | look k _ => look k next
  | branch isLazy nexts => branch isLazy (next :: nexts)
  | s => s

end State

/-- An automaton while it is drawn up. States are numbered in the order in which they are added, and are
led on to others as these come to be known. -/
structure Draft where
  states : Array State
  transitionBytes : Nat

namespace Draft

def stateSize : Nat := 32

def empty : Draft := ⟨#[], 0⟩

def memory (d : Draft) : Nat := d.states.size * stateSize + d.transitionBytes

def maxMemory : Nat := 10 * 1024 * 1024

def push (d : Draft) (s : State) : Draft :=
  ⟨d.states.push s, d.transitionBytes + s.transitionBytes⟩

/-- Leads the state at `i` to `next`. -/
def lead (d : Draft) (i next : Nat) : Draft :=
  let more := match d.states[i]? with
    | some (.branch ..) => State.branchSize
    | _ => 0
  ⟨d.states.modify i (·.leadTo next), d.transitionBytes + more⟩

end Draft

/-- Draws up parts of an automaton, unless too much memory is taken. -/
abbrev Drawing := StateT Draft Option

namespace Drawing

def checkMemory : Drawing Unit := fun d =>
  if Draft.maxMemory < d.memory then none else some ((), d)

def add (s : State) : Drawing Nat := do
  checkMemory
  modifyGet fun d => (d.states.size, d.push s)

def lead (i next : Nat) : Drawing Unit := modify (·.lead i next)

end Drawing

/-- The states at which a part of an automaton is entered and left. -/
structure Piece where
  start : Nat
  stop : Nat

abbrev Plan := Drawing Piece

namespace Plan

open Drawing

def single (s : State) : Plan := do
  let i ← add s
  return ⟨i, i⟩

def nothing : Plan := single (.pass 0)

/-- One plan behind the other. -/
def andThen (p q : Plan) : Plan := do
  let a ← p
  let b ← q
  lead a.stop b.start
  return ⟨a.start, b.stop⟩

/-- Carries a plan out `n` times behind a piece. -/
def timesFrom (p : Plan) : Nat → Piece → Plan
  | 0, a => return a
  | n + 1, a => do
    let b ← p
    lead a.stop b.start
    timesFrom p n ⟨a.start, b.stop⟩

def times (p : Plan) : Nat → Plan
  | 0 => nothing
  | n + 1 => do
    let a ← p
    timesFrom p n a

/-- A byte of a set. -/
def ofBytes (set : Ranges) : Plan := do
  let stop ← add (.pass 0)
  let start ← add (.arrows (set.map fun r => ⟨.ofNat r.lo, .ofNat r.hi, stop⟩))
  return ⟨start, stop⟩

/-- The bytes of a word in a row. -/
def ofWord : Bytes → Plan
  | [] => nothing
  | b :: bs => do
    let start ← add (.arrow ⟨b, b, 0⟩)
    let stop ← bs.foldlM (fun last b => do
      let i ← add (.arrow ⟨b, b, 0⟩)
      lead last i
      return i) start
    return ⟨start, stop⟩

/-- A part that may be left out. -/
def optional (isLazy : Bool) (p : Plan) : Plan := do
  let fork ← add (.branch isLazy [])
  let a ← p
  let stop ← add (.pass 0)
  lead fork a.start
  lead fork stop
  lead a.stop stop
  return ⟨fork, stop⟩

/-- Behind a piece, a part that may be left out any of `n` times, always with the same end. -/
def upToFrom (isLazy : Bool) (p : Plan) (stop : Nat) : Nat → Piece → Plan
  | 0, a => do
    lead a.stop stop
    return ⟨a.start, stop⟩
  | n + 1, a => do
    let fork ← add (.branch isLazy [])
    let b ← p
    lead a.stop fork
    lead fork b.start
    lead fork stop
    upToFrom isLazy p stop n ⟨a.start, b.stop⟩

/-- A part `min` times, and then up to `more` times. -/
def between (isLazy : Bool) (p : Plan) (min more : Nat) : Plan := do
  let a ← p.times min
  let stop ← add (.pass 0)
  upToFrom isLazy p stop more a

/-- A part once or any number of times more: behind it stands a state that leads back. -/
def again (isLazy : Bool) (p : Plan) : Plan := do
  let a ← p
  let fork ← add (.branch isLazy [])
  lead a.stop fork
  lead fork a.start
  return ⟨a.start, fork⟩

/-- Any number of times. A part with a length returns to the state before it. A part without one
needs a state behind it, and another that passes it over. -/
def star (isLazy hasLength : Bool) (p : Plan) : Plan := do
  if hasLength then
    let fork ← add (.branch isLazy [])
    let a ← p
    lead fork a.start
    lead a.stop fork
    return ⟨fork, fork⟩
  else
    let a ← p.again isLazy
    let fork ← add (.branch isLazy [])
    let stop ← add (.pass 0)
    lead fork a.start
    lead fork stop
    lead a.stop stop
    return ⟨fork, stop⟩

def repetition (min : Nat) (max : Option Nat) (isLazy hasLength : Bool) (p : Plan) : Plan :=
  match min, max with
  | 0, some 1 => p.optional isLazy
  | 0, none => p.star isLazy hasLength
  | 1, none => p.again isLazy
  | n + 1, none => (p.times n).andThen (p.again isLazy)
  | min, some max => if min = max then p.times min else p.between isLazy min (max - min)

/-- Two states around a part that note the place. -/
def noted (p : Plan) : Plan := (single (.pass 0)).andThen (p.andThen (single (.pass 0)))

/-- One of two parts or more: a state that decides is made when two of them are there. -/
def oneOf : List Plan → Plan
  | [] => single (.arrows [])
  | [p] => p
  | p :: q :: ps => do
    let a ← p
    let b ← q
    let fork ← add (.branch false [])
    let stop ← add (.pass 0)
    lead fork a.start
    lead a.stop stop
    lead fork b.start
    lead b.stop stop
    ps.forM fun p => do
      let c ← p
      lead fork c.start
      lead c.stop stop
    return ⟨fork, stop⟩

end Plan

/-- A table with a fixed number of slots. The entry of a key stands in the slot of its hash, and
displaces what stood there. -/
structure Table where
  slots : UInt64
  entries : Std.HashMap UInt64 (List Nat × Nat)

namespace Table

def empty (slots : UInt64) : Table := ⟨slots, ∅⟩

/-- The hash of numbers that starts from an offset and, for each of them, combines by exclusive or
and multiplies by a prime. -/
def hash (key : List Nat) : UInt64 :=
  key.foldl (fun h x => (h ^^^ x.toUInt64) * 1099511628211) 14695981039346656037

def find? (t : Table) (key : List Nat) : Option Nat :=
  match t.entries[hash key % t.slots]? with
  | some (k, value) => if k = key then some value else none
  | none => none

def insert (t : Table) (key : List Nat) (value : Nat) : Table :=
  { t with entries := t.entries.insert (hash key % t.slots) (key, value) }

theorem find?_insert (t : Table) (key : List Nat) (value : Nat) :
    (t.insert key value).find? key = some value := by
  simp [find?, insert]

end Table

end InvertedIndex.Pattern.Automaton
