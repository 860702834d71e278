import InvertedIndex.Bytes
import InvertedIndex.Pattern.Automaton.Draft

namespace InvertedIndex.Pattern.Automaton

open Drawing

/-- Drops from each word that starts with `b` this byte, and all other words. -/
def behind (b : UInt8) (words : List Bytes) : List Bytes :=
  words.filterMap fun
    | x :: word => if x = b then some word else none
    | [] => none

/-- The bytes that words start with, each with what follows it, in ascending order. -/
def byFirst (words : List Bytes) : List (UInt8 × List Bytes) :=
  ((words.filterMap List.head?).eraseDups.mergeSort (· ≤ ·)).map fun b => (b, behind b words)

/-- The words between those that are empty. -/
def betweenEmpty : List Bytes → List (List Bytes)
  | [] => [[]]
  | word :: words =>
    match betweenEmpty words with
    | [] => [[word]]
    | part :: parts => if word.isEmpty then [] :: part :: parts else (word :: part) :: parts

/-- The parts between words that end here, one of which may stand before all others. -/
def partsOf (words : List Bytes) : List (List Bytes) :=
  let parts := betweenEmpty (words.dropWhile List.isEmpty)
  if words.head? = some [] then [] :: parts else parts

/-- Ways out by one byte or by several. -/
def addArrows : List Arrow → Drawing (List Nat)
  | [] => return []
  | [a] => return [← add (.arrow a)]
  | as => return [← add (.arrows as)]

/-- The state behind a common beginning, which is the end where nothing follows. A branch leads to the
ways out of each part in turn, and to the end between them. -/
def enterWords (stop : Nat) : Nat → List Bytes → Drawing Nat
  | 0, _ => return stop
  | depth + 1, words => do
    if words.all List.isEmpty then return stop
    else
      let ways ← (partsOf words).mapM fun part => do
        let as ← (byFirst part).mapM fun (b, rest) => do
          return ⟨b, b, ← enterWords stop depth rest⟩
        addArrows as
      add (.branch false ([stop].intercalate ways).reverse)

/-- One of the words, of which no one is empty. -/
def ofWords (words : List Bytes) : Plan := do
  let depth := words.foldl (fun n word => max n word.length) 0
  let stop ← add (.pass 0)
  let start ← enterWords stop (depth + 1) words
  return ⟨start, stop⟩

end InvertedIndex.Pattern.Automaton
