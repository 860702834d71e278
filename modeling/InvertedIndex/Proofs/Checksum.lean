import InvertedIndex.Checksum
import InvertedIndex.Proofs.Bytes

namespace InvertedIndex.Checksum

/-- What a shift adds for the bit that falls out. -/
def feedback (r : UInt32) : UInt32 := if r.toNat % 2 = 1 then polynomial else 0

theorem shift_eq (r : UInt32) : shift r = (r >>> 1) ^^^ feedback r := by
  have hlow : r &&& 1 = 1 ↔ r.toNat % 2 = 1 := by
    rw [← UInt32.toNat_inj, UInt32.toNat_and]
    simp
  unfold shift feedback
  by_cases h : r.toNat % 2 = 1
  · rw [if_pos (hlow.mpr h), if_pos h]
  · rw [if_neg fun hr => h (hlow.mp hr), if_neg h, UInt32.xor_zero]

theorem feedback_xor (a b : UInt32) : feedback (a ^^^ b) = feedback a ^^^ feedback b := by
  simp only [feedback, UInt32.toNat_xor, Nat.xor_mod_two_eq_one]
  by_cases ha : a.toNat % 2 = 1 <;> by_cases hb : b.toNat % 2 = 1 <;> simp [ha, hb]

theorem shift_xor (a b : UInt32) : shift (a ^^^ b) = shift a ^^^ shift b := by
  rw [shift_eq, shift_eq, shift_eq, UInt32.shiftRight_xor, feedback_xor]
  ac_rfl

theorem toNat_shiftRight_one (r : UInt32) : (r >>> 1).toNat = r.toNat / 2 := by
  rw [UInt32.toNat_shiftRight]
  exact Nat.shiftRight_eq_div_pow r.toNat 1

/-- The polynomial has the highest bit, which no register has after it was moved. -/
theorem eq_zero_of_shift {r : UInt32} (h : shift r = 0) : r = 0 := by
  rw [shift_eq, UInt32.xor_eq_zero_iff] at h
  have hnat := congrArg UInt32.toNat h
  have hlt := r.toNat_lt
  rw [toNat_shiftRight_one, feedback] at hnat
  apply UInt32.toNat_inj.mp
  by_cases hodd : r.toNat % 2 = 1
  · have hpolynomial : polynomial.toNat = 0xEDB88320 := rfl
    rw [if_pos hodd, hpolynomial] at hnat
    omega
  · rw [if_neg hodd, UInt32.toNat_zero] at hnat
    rw [UInt32.toNat_zero]
    omega

/-- A shift loses nothing. -/
theorem shift_injective : Function.Injective shift := by
  intro a b h
  have hzero : shift (a ^^^ b) = 0 := by rw [shift_xor, h, UInt32.xor_self]
  exact UInt32.xor_eq_zero_iff.mp (eq_zero_of_shift hzero)

theorem repeat_add {α : Type} (f : α → α) (m n : Nat) (a : α) :
    Nat.repeat f (m + n) a = Nat.repeat f m (Nat.repeat f n a) := by
  induction m with
  | zero => rw [Nat.zero_add, Nat.repeat]
  | succ m ih => rw [Nat.succ_add, Nat.repeat, Nat.repeat, ih]

theorem repeat_shift_xor (n : Nat) (a b : UInt32) :
    Nat.repeat shift n (a ^^^ b) = Nat.repeat shift n a ^^^ Nat.repeat shift n b := by
  induction n with
  | zero => rfl
  | succ n ih => rw [Nat.repeat, Nat.repeat, Nat.repeat, ih, shift_xor]

theorem repeat_shift_injective (n : Nat) : Function.Injective (Nat.repeat shift n) := by
  induction n with
  | zero => exact fun _ _ h => h
  | succ n ih => exact fun _ _ h => ih (shift_injective h)

/-- As long as only zeros fall out, a shift moves the others down. -/
theorem toNat_repeat_shift {n x : Nat} {r : UInt32} (h : r.toNat = x <<< n) :
    (Nat.repeat shift n r).toNat = x := by
  induction n generalizing x with
  | zero => exact h
  | succ n ih =>
    rw [Nat.shiftLeft_succ_inside] at h
    have hprev : (Nat.repeat shift n r).toNat = 2 * x := ih h
    have heven : ¬ (Nat.repeat shift n r).toNat % 2 = 1 := by
      rw [hprev]
      omega
    rw [Nat.repeat, shift_eq, feedback, if_neg heven, UInt32.xor_zero, toNat_shiftRight_one, hprev,
      Nat.mul_div_cancel_left x Nat.two_pos]

theorem register_cons (r : UInt32) (b : UInt8) (bs : Bytes) :
    register r (b :: bs) = register (update r b) bs := rfl

/-- Registers that differ before some bytes differ behind them. -/
theorem register_injective (bs : Bytes) : Function.Injective (register · bs) := by
  induction bs with
  | nil => exact fun _ _ h => h
  | cons b bs ih =>
    intro r s h
    have hupdate : update r b = update s b := ih h
    exact (UInt32.xor_left_inj _).mp (repeat_shift_injective 8 hupdate)

/-- Bytes as a word of the register. -/
def word (bs : Bytes) : UInt32 := .ofNat bs.toLE

theorem xor_eq_add {b : Nat} (hb : b < 256) (w : Nat) : b ^^^ 256 * w = b + 256 * w := by
  apply Nat.eq_of_testBit_eq
  intro i
  have hsum := Nat.testBit_two_pow_mul_add w (show b < 2 ^ 8 from hb) i
  rw [Nat.testBit_xor, Nat.add_comm b, show 256 = 2 ^ 8 from rfl, hsum, Nat.testBit_two_pow_mul]
  by_cases hi : i < 8
  · simp [hi, Nat.not_le_of_lt hi]
  · have hpow : 2 ^ 8 ≤ 2 ^ i := Nat.pow_le_pow_right Nat.two_pos (Nat.le_of_not_lt hi)
    have hlow : b.testBit i = false := Nat.testBit_lt_two_pow (Nat.lt_of_lt_of_le hb hpow)
    simp [hi, Nat.le_of_not_lt hi, hlow]

/-- The first byte of a word is added to what the others are before eight shifts. -/
theorem word_cons (b : UInt8) {bs : Bytes} (h : bs.length ≤ 3) :
    ∃ high, word (b :: bs) = b.toUInt32 ^^^ high ∧ Nat.repeat shift 8 high = word bs := by
  have hlt : bs.toLE < 2 ^ 24 := Nat.lt_of_lt_of_le (Bytes.toLE_lt bs) (Bytes.limit_le h)
  have hb : b.toNat < 2 ^ 8 := b.toNat_lt
  have hhigh : (UInt32.ofNat (256 * bs.toLE)).toNat = 256 * bs.toLE := by
    rw [UInt32.toNat_ofNat']
    omega
  refine ⟨.ofNat (256 * bs.toLE), ?_, ?_⟩
  · apply UInt32.toNat_inj.mp
    have hword : (word (b :: bs)).toNat = b.toNat + 256 * bs.toLE := by
      rw [word, Bytes.toLE, UInt32.toNat_ofNat']
      omega
    rw [hword, UInt32.toNat_xor, hhigh, UInt8.toNat_toUInt32, xor_eq_add hb]
  · apply UInt32.toNat_inj.mp
    have hup : (UInt32.ofNat (256 * bs.toLE)).toNat = bs.toLE <<< 8 := by
      rw [hhigh, Nat.shiftLeft_eq, Nat.mul_comm]
    rw [toNat_repeat_shift hup, word, UInt32.toNat_ofNat']
    omega

/-- Up to four bytes are taken in as one word. -/
theorem register_eq_word (r : UInt32) {bs : Bytes} (h : bs.length ≤ 4) :
    register r bs = Nat.repeat shift (8 * bs.length) (r ^^^ word bs) := by
  induction bs generalizing r with
  | nil => exact UInt32.xor_zero.symm
  | cons b bs ih =>
    have hshort : bs.length ≤ 3 := Nat.le_of_succ_le_succ h
    obtain ⟨high, hword, hhigh⟩ := word_cons b hshort
    rw [register_cons, ih _ (Nat.le_succ_of_le hshort), List.length_cons, Nat.mul_succ, repeat_add,
      hword, ← UInt32.xor_assoc, repeat_shift_xor 8, hhigh]
    rfl

theorem word_injective {xs ys : Bytes} (hlength : xs.length = ys.length) (hshort : xs.length ≤ 4)
    (h : word xs = word ys) : xs = ys := by
  apply Bytes.toLE_injective hlength
  have hxs := Nat.lt_of_lt_of_le (Bytes.toLE_lt xs) (Bytes.limit_le hshort)
  have hys := Nat.lt_of_lt_of_le (Bytes.toLE_lt ys) (Bytes.limit_le (hlength ▸ hshort))
  have hnat := congrArg UInt32.toNat h
  rwa [word, word, UInt32.toNat_ofNat_of_lt' hxs, UInt32.toNat_ofNat_of_lt' hys] at hnat

/-- Up to four bytes that are changed, whatever stands before them and behind them, change the checksum. -/
theorem crc32_ne_of_ne (front back : Bytes) {xs ys : Bytes} (hlength : xs.length = ys.length)
    (hshort : xs.length ≤ 4) (hne : xs ≠ ys) :
    crc32 (front ++ xs ++ back) ≠ crc32 (front ++ ys ++ back) := by
  intro h
  have hregister := (UInt32.xor_left_inj _).mp h
  rw [register_append, register_append, register_append, register_append] at hregister
  have hblock : register (register 0xFFFFFFFF front) xs = register (register 0xFFFFFFFF front) ys :=
    register_injective back hregister
  have hshort' : ys.length ≤ 4 := by rwa [← hlength]
  rw [register_eq_word _ hshort, register_eq_word _ hshort', hlength] at hblock
  have hword := (UInt32.xor_right_inj _).mp (repeat_shift_injective _ hblock)
  exact hne (word_injective hlength hshort hword)

/-- Byte strings of one length that differ, but are the same outside of `n` places in a row. -/
structure DiffersWithin (n : Nat) (xs ys : Bytes) : Prop where
  length_eq : xs.length = ys.length
  ne : xs ≠ ys
  near : ∃ start, ∀ i, i < start ∨ start + n ≤ i → xs[i]? = ys[i]?

/-- What lies between the first and the last difference is a window in front of which and behind which
the strings are the same. -/
theorem differsWithin_iff {n : Nat} {xs ys : Bytes} :
    DiffersWithin n xs ys ↔ ∃ front mid mid' back, xs = front ++ mid ++ back ∧
      ys = front ++ mid' ++ back ∧ mid.length = mid'.length ∧ mid.length ≤ n ∧ mid ≠ mid' := by
  constructor
  · intro h
    obtain ⟨start, hnear⟩ := h.near
    have hfront : ys.take start = xs.take start := by
      apply List.ext_getElem?
      intro i
      rw [List.getElem?_take, List.getElem?_take]
      split
      · next hi => exact (hnear i (.inl hi)).symm
      · rfl
    have hback : (ys.drop start).drop n = (xs.drop start).drop n := by
      apply List.ext_getElem?
      intro i
      rw [List.drop_drop, List.drop_drop, List.getElem?_drop, List.getElem?_drop]
      exact (hnear _ (.inr (Nat.le_add_right _ i))).symm
    have hxs : xs = xs.take start ++ (xs.drop start).take n ++ (xs.drop start).drop n := by
      rw [List.append_assoc, List.take_append_drop, List.take_append_drop]
    have hys : ys = xs.take start ++ (ys.drop start).take n ++ (xs.drop start).drop n := by
      rw [← hfront, ← hback, List.append_assoc, List.take_append_drop, List.take_append_drop]
    refine ⟨_, _, _, _, hxs, hys, ?_, ?_, ?_⟩
    · rw [List.length_take, List.length_take, List.length_drop, List.length_drop, h.length_eq]
    · rw [List.length_take]
      exact Nat.min_le_left _ _
    · intro hmid
      rw [hmid] at hxs
      exact h.ne (hxs.trans hys.symm)
  · rintro ⟨front, mid, mid', back, rfl, rfl, hlength, hshort, hne⟩
    refine ⟨?_, ?_, front.length, ?_⟩
    · simp [hlength]
    · intro heq
      exact hne (List.append_cancel_left (List.append_cancel_right heq))
    · intro i hi
      cases hi with
      | inl hi =>
        rw [List.append_assoc, List.append_assoc, List.getElem?_append_left hi,
          List.getElem?_append_left hi]
      | inr hi =>
        have hpast : (front ++ mid).length ≤ i := by
          rw [List.length_append]
          omega
        have hpast' : (front ++ mid').length ≤ i := by
          rwa [List.length_append, ← hlength, ← List.length_append]
        rw [List.getElem?_append_right hpast, List.getElem?_append_right hpast', List.length_append,
          List.length_append, hlength]

/-- No damage within four bytes leaves the checksum as it was. -/
theorem crc32_ne_of_differsWithin {xs ys : Bytes} (h : DiffersWithin 4 xs ys) :
    crc32 xs ≠ crc32 ys := by
  obtain ⟨front, mid, mid', back, rfl, rfl, hlength, hshort, hne⟩ := differsWithin_iff.mp h
  exact crc32_ne_of_ne front back hlength hshort hne

end InvertedIndex.Checksum
