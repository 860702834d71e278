import InvertedIndex.Bytes

namespace InvertedIndex.Pattern

/-- The rests of a text, the whole text first and the empty rest last, behind those of `acc`. -/
def restsFrom : Bytes → Array Bytes → Array Bytes
  | [], acc => acc.push []
  | b :: bs, acc => restsFrom bs (acc.push (b :: bs))

theorem getElem?_restsFrom (text : Bytes) (acc : Array Bytes) (i : Nat) :
    (restsFrom text acc)[acc.size + i]? = if i ≤ text.length then some (text.drop i) else none := by
  induction text generalizing acc i with
  | nil => cases i <;> simp [restsFrom]
  | cons b bs ih =>
    cases i with
    | zero =>
      have hkeep (text : Bytes) (acc : Array Bytes) (j : Nat) (h : j < acc.size) :
          (restsFrom text acc)[j]? = acc[j]? := by
        induction text generalizing acc with
        | nil => simp [restsFrom, Array.getElem?_push, Nat.ne_of_lt h]
        | cons c cs ih =>
          rw [restsFrom, ih _ (by simp; omega), Array.getElem?_push, if_neg (Nat.ne_of_lt h)]
      rw [restsFrom, hkeep _ _ _ (by simp)]
      simp
    | succ i =>
      have h := ih (acc.push (b :: bs)) i
      rw [Array.size_push] at h
      rw [restsFrom, show acc.size + (i + 1) = acc.size + 1 + i by omega, h]
      simp

/-- A text that a pattern is held against. What is left of the text is at hand for every place in it. -/
structure Subject where
  text : Bytes
  length : Nat
  rests : Array Bytes
  length_eq : length = text.length
  rests_eq : rests = restsFrom text #[]

namespace Subject

def ofText (text : Bytes) : Subject := ⟨text, text.length, restsFrom text #[], rfl, rfl⟩

/-- What is left of the text at a place. -/
def rest (s : Subject) (i : Nat) : Bytes := (s.rests[i]?).getD []

@[simp] theorem text_ofText (text : Bytes) : (ofText text).text = text := rfl

theorem rest_eq (s : Subject) (i : Nat) : s.rest i = s.text.drop i := by
  have h := getElem?_restsFrom s.text #[] i
  rw [← s.rests_eq, Array.size_empty, Nat.zero_add] at h
  rw [rest, h]
  split
  · rfl
  · next hi => simp [List.drop_eq_nil_of_le (Nat.le_of_not_le hi)]

def byteAt? (s : Subject) (i : Nat) : Option UInt8 := (s.rest i).head?

theorem byteAt?_eq (s : Subject) (i : Nat) : s.byteAt? i = s.text[i]? := by
  rw [byteAt?, rest_eq, List.head?_drop]

def byteBefore? (s : Subject) (i : Nat) : Option UInt8 :=
  if i = 0 then none else s.byteAt? (i - 1)

/-- The bytes from place `i` to place `j`. -/
def slice (s : Subject) (i j : Nat) : Bytes := (s.rest i).take (j - i)

def places (s : Subject) : List Nat := List.range (s.length + 1)

end Subject

end InvertedIndex.Pattern
