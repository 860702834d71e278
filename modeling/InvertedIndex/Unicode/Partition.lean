import InvertedIndex.Ranges

namespace InvertedIndex.Unicode

/-- Runs that follow one another from code point zero: how long, and which values. -/
abbrev Partition := List (Nat × List String)

namespace Partition

/-- Runs are separated by blanks or line ends; each is a length in hexadecimal, a colon, and values
with `+` between them. -/
def parse (text : String) : Partition :=
  ((text.splitOn "\n").flatMap (·.splitOn " ")).filterMap fun run =>
    match run.splitOn ":" with
    | [size, values] =>
      some (size.toList.foldl (fun n c => n * 16 + Ranges.ofRuns.digit c) 0, values.splitOn "+")
    | _ => none

/-- The code points with a value that passes the test. -/
def having (p : Partition) (holds : String → Bool) : Ranges :=
  let step := fun ((start, acc) : Nat × List Span) ((size, values) : Nat × List String) =>
    (start + size, if values.any holds then ⟨start, start + size - 1⟩ :: acc else acc)
  Ranges.join (p.foldl step (0, [])).2.reverse

end Partition

end InvertedIndex.Unicode
