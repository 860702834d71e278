import InvertedIndex.Pattern
import InvertedIndex.Segment.Key

namespace InvertedIndex.Segment

/-- An automaton for terms. -/
structure TermAutomaton (σ : Type) where
  start : σ
  next : σ → UInt8 → σ
  /-- A term that ends here is accepted. -/
  isAccepting : σ → Bool
  isDead : σ → Bool
  /-- From a dead state nothing is accepted any more. -/
  rejects_of_isDead (s : σ) (bs : Bytes) : isDead s = true → isAccepting (bs.foldl next s) = false

namespace TermAutomaton

variable {σ : Type}

def accepts (a : TermAutomaton σ) (term : Bytes) : Bool := a.isAccepting (term.foldl a.next a.start)

/-- The automaton of a tree: its state is what it has read, the last byte first. -/
def ofTree (t : Pattern.Tree) : TermAutomaton Bytes where
  start := []
  next read b := b :: read
  isAccepting read := t.isWholeMatch read.reverse
  isDead _ := false
  rejects_of_isDead := by
    intro s bs h
    cases h

end TermAutomaton

/-- How far a search has come in a key: some bytes of what stands in front of terms, some of the
term, or where nothing can match any more. -/
inductive KeyState (σ : Type) where
  | inFront (place : Nat)
  | inTerm (state : σ)
  | dead

/-- An automaton for the keys of one field whose terms are accepted. Only the term is read by an
automaton for patterns, so what a pattern says about the start and the end of a value holds of the term
and not of the key. -/
structure KeyAutomaton (σ : Type) where
  /-- What stands in front of the terms of the field. -/
  front : Bytes
  terms : TermAutomaton σ

namespace KeyAutomaton

variable {σ : Type}

def new (field : Bytes) (terms : TermAutomaton σ) : KeyAutomaton σ := ⟨Key.start field, terms⟩

def isMatch (a : KeyAutomaton σ) : KeyState σ → Bool
  | .inTerm s => a.terms.isAccepting s
  | .inFront _ | .dead => false

def canMatch : KeyState σ → Bool
  | .dead => false
  | .inFront _ | .inTerm _ => true

def accept (a : KeyAutomaton σ) (s : KeyState σ) (b : UInt8) : KeyState σ :=
  match s with
  | .inFront place =>
    if a.front[place]? = some b then
      if place + 1 = a.front.length then .inTerm a.terms.start else .inFront (place + 1)
    else .dead
  | .inTerm s =>
    let next := a.terms.next s b
    if a.terms.isDead next then .dead else .inTerm next
  | .dead => .dead

/-- Follows the rest of a key, as long as something can match. -/
def run (a : KeyAutomaton σ) (s : KeyState σ) : Bytes → Bool
  | [] => a.isMatch s
  | b :: bs => canMatch s && run a (a.accept s b) bs

def accepts (a : KeyAutomaton σ) (key : Bytes) : Bool := a.run (.inFront 0) key

end KeyAutomaton

end InvertedIndex.Segment
