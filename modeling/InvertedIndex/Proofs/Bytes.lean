import InvertedIndex.Bytes

namespace InvertedIndex.Bytes

theorem limit_le {m n : Nat} (h : m ≤ n) : limit m ≤ limit n := by
  induction h with
  | refl => exact Nat.le_refl _
  | step _ ih =>
    rw [limit]
    omega

theorem toLE_lt (bs : Bytes) : bs.toLE < limit bs.length := by
  induction bs with
  | nil => decide
  | cons b bs ih =>
    have hb := b.toNat_lt
    rw [toLE, List.length_cons, limit]
    omega

/-- Byte strings of one length are told apart by the words that they are. -/
theorem toLE_injective {xs ys : Bytes} (hlength : xs.length = ys.length) (h : xs.toLE = ys.toLE) :
    xs = ys := by
  induction xs generalizing ys with
  | nil => exact (List.length_eq_zero_iff.mp hlength.symm).symm
  | cons x xs ih =>
    cases ys with
    | nil => cases hlength
    | cons y ys =>
      have hx := x.toNat_lt
      have hy := y.toNat_lt
      rw [toLE, toLE] at h
      have hhead : x = y := UInt8.toNat_inj.mp (by omega)
      have htail : xs = ys := ih (Nat.succ.inj hlength) (by omega)
      rw [hhead, htail]

theorem ofLE_toLE (bs : Bytes) : ofLE bs.length bs.toLE = bs :=
  toLE_injective (length_ofLE _ _) (toLE_ofLE_of_lt (toLE_lt bs))

theorem word?_ofLE (n x : Nat) (rest : Bytes) :
    word? n (ofLE n x ++ rest) = some (x % limit n, rest) := by
  have hsplit := split?_append (ofLE n x) rest
  rw [length_ofLE] at hsplit
  rw [word?, hsplit, ← toLE_ofLE]
  rfl

/-- Words that were written are read back, as far as their width goes. -/
theorem words?_flatMap (width : Nat) (xs : List Nat) (rest : Bytes) :
    words? width xs.length (xs.flatMap (ofLE width) ++ rest) =
      some (xs.map (· % limit width), rest) := by
  induction xs with
  | nil => rfl
  | cons x xs ih =>
    rw [List.flatMap_cons, List.append_assoc, List.length_cons, words?, word?_ofLE]
    dsimp only
    rw [ih]
    rfl

theorem split?_of_length {n : Nat} {xs : Bytes} (h : xs.length = n) (ys : Bytes) :
    split? n (xs ++ ys) = some (xs, ys) := by
  rw [← h]
  exact split?_append xs ys

/-- A split is known by its two parts. -/
theorem split?_eq_some_iff {n : Nat} {bs front rest : Bytes} :
    split? n bs = some (front, rest) ↔ front.length = n ∧ bs = front ++ rest := by
  constructor
  · intro h
    rw [split?_eq] at h
    split at h
    · next hle =>
      obtain ⟨rfl, rfl⟩ := Prod.mk.inj (Option.some.inj h)
      exact ⟨List.length_take_of_le hle, (List.take_append_drop n bs).symm⟩
    · cases h
  · rintro ⟨hlength, rfl⟩
    exact split?_of_length hlength rest

/-- A word is read just where it is written. -/
theorem word?_eq_some_iff {n x : Nat} {bs rest : Bytes} :
    word? n bs = some (x, rest) ↔ x < limit n ∧ bs = ofLE n x ++ rest := by
  constructor
  · intro h
    obtain ⟨⟨w, after⟩, hsplit, heq⟩ := Option.map_eq_some_iff.mp h
    obtain ⟨rfl, rfl⟩ := Prod.mk.inj heq
    obtain ⟨rfl, rfl⟩ := split?_eq_some_iff.mp hsplit
    exact ⟨toLE_lt w, by rw [ofLE_toLE]⟩
  · rintro ⟨hlt, rfl⟩
    exact word?_ofLE_append hlt rest

theorem slice_of_length {start n : Nat} {xs ys : Bytes} (hxs : xs.length = start)
    (hys : ys.length = n) (zs : Bytes) : slice (xs ++ ys ++ zs) start n = ys := by
  rw [slice, List.append_assoc, List.drop_left' hxs, List.take_left' hys]

theorem length_flatMap_of_length {α : Type} {f : α → Bytes} {n : Nat} (h : ∀ a, (f a).length = n)
    (as : List α) : (as.flatMap f).length = n * as.length := by
  induction as with
  | nil => rfl
  | cons a as ih =>
    rw [List.flatMap_cons, List.length_append, h, ih, List.length_cons, Nat.mul_succ, Nat.add_comm]

/-- The word at a place among words of the same width. -/
theorem slice_flatMap_ofBE {width i x : Nat} {xs : List Nat} (hx : xs[i]? = some x) :
    slice (xs.flatMap (ofBE width)) (width * i) width = ofBE width x := by
  obtain ⟨hi, rfl⟩ := List.getElem?_eq_some_iff.mp hx
  have hparts : xs.flatMap (ofBE width) = (xs.take i).flatMap (ofBE width) ++ ofBE width xs[i] ++
      (xs.drop (i + 1)).flatMap (ofBE width) := by
    rw [← List.flatMap_singleton (ofBE width) xs[i], ← List.flatMap_append, ← List.flatMap_append,
      List.append_assoc, List.singleton_append, List.getElem_cons_drop, List.take_append_drop]
  have hfront : ((xs.take i).flatMap (ofBE width)).length = width * i := by
    rw [length_flatMap_of_length (length_ofBE width), List.length_take_of_le (Nat.le_of_lt hi)]
  rw [hparts, slice_of_length hfront (length_ofBE width xs[i])]

section

variable {α β : Type} {read other : Bytes → Option (α × Bytes)} {first : Bytes → Option (β × Bytes)}
  {next : β → Bytes → Option (α × Bytes)}

/-- What is read does not change when more bytes follow, which are left over. -/
def Extends (read : Bytes → Option (α × Bytes)) : Prop :=
  ∀ bs a rest, read bs = some (a, rest) → ∀ more, read (bs ++ more) = some (a, rest ++ more)

theorem extends_some (a : α) : Extends fun bs => some (a, bs) := by
  intro bs b rest h more
  obtain ⟨rfl, rfl⟩ := Prod.mk.inj (Option.some.inj h)
  rfl

theorem extends_none : Extends fun _ => (none : Option (α × Bytes)) := by
  intro bs a rest h
  cases h

theorem Extends.ite {c : Prop} [Decidable c] (hread : Extends read) (hother : Extends other) :
    Extends fun bs => if c then read bs else other bs := by
  by_cases hc : c
  · simpa only [if_pos hc] using hread
  · simpa only [if_neg hc] using hother

/-- One part is read after the other. -/
theorem Extends.bind (hfirst : Extends first) (hnext : ∀ b, Extends (next b))
    (heq : ∀ bs, read bs = (first bs).bind fun part => next part.1 part.2) : Extends read := by
  intro bs a rest h more
  rw [heq] at h ⊢
  obtain ⟨⟨b, left⟩, hpart, h⟩ := Option.bind_eq_some_iff.mp h
  rw [hfirst bs b left hpart more, Option.bind_some]
  exact hnext b left a rest h more

theorem Extends.map (hfirst : Extends first) (f : β → α) :
    Extends fun bs => (first bs).map fun part => (f part.1, part.2) :=
  hfirst.bind (fun b => extends_some (f b)) fun _ => Option.map_eq_bind

/-- A reader that takes the first bytes does the same with more bytes behind. -/
theorem extends_split? (n : Nat) : Extends (split? n) := by
  intro bs front rest h more
  rw [split?_eq] at h ⊢
  split at h
  · next hle =>
    obtain ⟨rfl, rfl⟩ := Prod.mk.inj (Option.some.inj h)
    have hmore : n ≤ (bs ++ more).length := by
      rw [List.length_append]
      omega
    rw [if_pos hmore, List.take_append_of_le_length hle, List.drop_append_of_le_length hle]
  · cases h

theorem extends_word? (n : Nat) : Extends (word? n) := (extends_split? n).map toLE

theorem extends_words? (width count : Nat) : Extends (words? width count) := by
  induction count with
  | zero => exact extends_some []
  | succ count ih =>
    refine (extends_word? width).bind (fun x => ih.map (x :: ·)) fun bs => ?_
    rw [words?]
    cases word? width bs <;> rfl

/-- Bytes that are read to their end cannot be read when some are missing at the end. -/
theorem Extends.eq_none (h : Extends read) {bs : Bytes} {a : α} (hall : read bs = some (a, [])) {n : Nat}
    (hn : n < bs.length) : read (bs.take n) = none := by
  cases hread : read (bs.take n) with
  | none => rfl
  | some result =>
    have hmore := h (bs.take n) result.1 result.2 hread (bs.drop n)
    rw [List.take_append_drop, hall] at hmore
    have hrest : [] = result.2 ++ bs.drop n := congrArg Prod.snd (Option.some.inj hmore)
    have hdrop : bs.drop n = [] := (List.append_eq_nil_iff.mp hrest.symm).2
    have hle : bs.length ≤ n := List.drop_eq_nil_iff.mp hdrop
    omega

end

end InvertedIndex.Bytes
