import InvertedIndex.Unicode.Printing

namespace InvertedIndex.Text.Quoted

def hexText (n : Nat) : List Char := Nat.toDigits 16 n

/-- Control characters, marks that would join the character before them, and everything else that does
not print are shown as escapes. -/
def escape (c : Char) : List Char :=
  match c with
  | '\x00' => ['\\', '0']
  | '\t' => ['\\', 't']
  | '\n' => ['\\', 'n']
  | '\r' => ['\\', 'r']
  | '"' => ['\\', '"']
  | '\\' => ['\\', '\\']
  | _ =>
    if Unicode.isAttached c || !Unicode.isPrintable c then
      ['\\', 'u', '\x7b'] ++ hexText c.toNat ++ ['\x7d']
    else [c]

def quote (cs : List Char) : String := .ofList ('"' :: cs.flatMap escape ++ ['"'])

end InvertedIndex.Text.Quoted
