import InvertedIndex.Pattern.Automaton.Draft
import InvertedIndex.Utf8.Sequences

namespace InvertedIndex.Pattern.Automaton

open Drawing

abbrev ByteSequence := List (UInt8 × UInt8)

/-- The branching of byte sequences: each range with what follows it. -/
inductive Branching where
  | node (items : List (UInt8 × UInt8 × Branching))
  deriving Repr

namespace Branching

/-- Sequences that stand side by side and begin with the same range go the same way. Sequences have
at most as many ranges as `depth` says. -/
def ofSequences : Nat → List ByteSequence → Branching
  | 0, _ => .node []
  | depth + 1, sequences =>
    .node ((sequences.splitBy fun xs ys => xs.head? == ys.head?).filterMap fun group =>
      match group with
      | ((lo, hi) :: _) :: _ =>
        some (lo, hi, ofSequences depth ((group.map List.tail).filter (!·.isEmpty)))
      | _ => none)

end Branching

/-- Draws with a table of states that can be shared. -/
abbrev Sharing := StateT Table Drawing

/-- The state of a key, which is added if it is unknown. -/
def intern (key : List Nat) (s : State) : Sharing Nat := do
  match (← get).find? key with
  | some i => return i
  | none =>
    let i ← add s
    modify (·.insert key i)
    return i

/-- The key of arrows has three numbers for each of them. -/
def keyOf (as : List Arrow) : List Nat := as.flatMap fun a => [a.lo.toNat, a.hi.toNat, a.next]

mutual

/-- The state of a node, which comes behind those of the nodes it leads to. A node without ranges is
the common end. -/
def enter (stop : Nat) : Branching → Sharing Nat
  | .node [] => return stop
  | .node items => do
    let as ← arrowsOf stop items
    intern (keyOf as) (.arrows as)

def arrowsOf (stop : Nat) : List (UInt8 × UInt8 × Branching) → Sharing (List Arrow)
  | [] => return []
  | (lo, hi, sub) :: items => do
    let next ← enter stop sub
    let as ← arrowsOf stop items
    return ⟨lo, hi, next⟩ :: as

end

/-- The longest encoding of a character has four bytes. -/
def forward (sequences : List ByteSequence) : Plan := do
  let stop ← add (.pass 0)
  let (start, _) ← (enter stop (.ofSequences 4 sequences)).run (.empty 10000)
  return ⟨start, stop⟩

/-- Read backward, each range leads to the range before it, and the last one is an entrance. -/
def enterBack (next : Nat) : ByteSequence → Sharing Nat
  | [] => return next
  | (lo, hi) :: rest => do
    let i ← intern [next, lo.toNat, hi.toNat] (.arrow ⟨lo, hi, next⟩)
    enterBack i rest

/-- States for one character of a set, read backward. Encodings that begin with the same bytes share
them. -/
def backward (sequences : List ByteSequence) : Plan := do
  let fork ← add (.branch false [])
  let stop ← add (.pass 0)
  let link (sequence : ByteSequence) : Sharing Unit := do
    let i ← enterBack stop sequence
    lead fork i
  let _ ← (sequences.forM link).run (.empty 1000)
  return ⟨fork, stop⟩

end InvertedIndex.Pattern.Automaton
