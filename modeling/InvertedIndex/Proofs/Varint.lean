import InvertedIndex.Document.Record
import InvertedIndex.Proofs.Results
import Mathlib.Algebra.BigOperators.Fin
import Mathlib.Data.Nat.Bitwise

namespace InvertedIndex.Varint

/-- The bytes of one number: each but the last says that more follow. -/
inductive Delimited : Bytes → Prop
  | last {b : UInt8} (hb : b.toNat < 128) : Delimited [b]
  | more {b : UInt8} {bs : Bytes} (hb : 128 ≤ b.toNat) (rest : Delimited bs) : Delimited (b :: bs)

/-- The low seven bits of every byte, each at its place. -/
def total (bs : Bytes) : Nat := ∑ i : Fin bs.length, bs[i].toNat % 128 * 2 ^ (7 * i.val)

theorem total_nil : total [] = 0 := rfl

theorem total_cons (b : UInt8) (bs : Bytes) : total (b :: bs) = b.toNat % 128 + 128 * total bs := by
  have hplace (i : Fin bs.length) :
      bs[i].toNat % 128 * 2 ^ (7 * (i.val + 1)) = 128 * (bs[i].toNat % 128 * 2 ^ (7 * i.val)) := by
    rw [Nat.mul_succ, Nat.pow_add, Nat.mul_comm (2 ^ (7 * i.val)), Nat.mul_left_comm]
  calc total (b :: bs)
      = b.toNat % 128 * 2 ^ (7 * 0) + ∑ i : Fin bs.length, bs[i].toNat % 128 * 2 ^ (7 * (i.val + 1)) :=
        Fin.sum_univ_succ _
    _ = b.toNat % 128 + 128 * total bs := by
        rw [Finset.sum_congr rfl fun i _ => hplace i, ← Finset.mul_sum, Nat.mul_zero, Nat.pow_zero,
          Nat.mul_one, total]

theorem total_singleton {b : UInt8} (hb : b.toNat < 128) : total [b] = b.toNat := by
  rw [total_cons, total_nil, Nat.mod_eq_of_lt hb, Nat.mul_zero, Nat.add_zero]

theorem total_lt (bs : Bytes) : total bs < 2 ^ (7 * bs.length) := by
  induction bs with
  | nil => decide
  | cons b bs ih =>
    rw [total_cons, List.length_cons, Nat.mul_succ, Nat.pow_add]
    omega

theorem Delimited.length_pos {bs : Bytes} (h : Delimited bs) : 0 < bs.length := by
  cases h <;> simp

theorem delimited_encode (n : Nat) : Delimited (encode n) := by
  induction n using Nat.strongRecOn with
  | ind n ih =>
    by_cases hshort : n < 128
    · rw [encode_of_lt hshort]
      apply Delimited.last
      rw [UInt8.toNat_ofNat']
      omega
    · rw [encode_of_le (by omega)]
      apply Delimited.more _ (ih (n / 128) (by omega))
      rw [UInt8.toNat_ofNat']
      omega

theorem total_encode (n : Nat) : total (encode n) = n := by
  induction n using Nat.strongRecOn with
  | ind n ih =>
    by_cases hshort : n < 128
    · have hbyte : (UInt8.ofNat n).toNat = n := by
        rw [UInt8.toNat_ofNat']
        omega
      rw [encode_of_lt hshort, total_singleton (by omega), hbyte]
    · have hbyte : (UInt8.ofNat (n % 128 + 128)).toNat = n % 128 + 128 := by
        rw [UInt8.toNat_ofNat']
        omega
      rw [encode_of_le (by omega), total_cons, hbyte, ih (n / 128) (by omega)]
      omega

/-- So many groups of seven bits take no more bytes. -/
theorem length_encode_le {n k : Nat} (hk : 0 < k) (hn : n < 2 ^ (7 * k)) : (encode n).length ≤ k := by
  induction k, hk using Nat.le_induction generalizing n with
  | base =>
    rw [encode_of_lt hn]
    exact Nat.le_refl 1
  | succ k hk ih =>
    by_cases hshort : n < 128
    · rw [encode_of_lt hshort, List.length_singleton]
      omega
    · have hrest : n / 128 < 2 ^ (7 * k) := by
        rw [Nat.mul_succ, Nat.pow_add] at hn
        exact Nat.div_lt_of_lt_mul (by omega)
      rw [encode_of_le (by omega), List.length_cons]
      exact Nat.succ_le_succ (ih hrest)

/-- Nothing shorter comes to the same number, and nothing else that is as short. -/
theorem Delimited.shortest {bs : Bytes} (h : Delimited bs) :
    (encode (total bs)).length ≤ bs.length ∧
      (bs.length = (encode (total bs)).length → bs = encode (total bs)) := by
  refine ⟨length_encode_le h.length_pos (total_lt bs), fun hlength => ?_⟩
  induction h with
  | @last b hb => rw [total_singleton hb, encode_of_lt hb, UInt8.ofNat_toNat]
  | @more b bs hb rest ih =>
    have hlt := b.toNat_lt
    have hlong : 128 ≤ total (b :: bs) := by
      by_contra hshort
      have hpos := rest.length_pos
      rw [encode_of_lt (by omega), List.length_cons, List.length_singleton] at hlength
      omega
    have hhigh : total (b :: bs) / 128 = total bs := by
      rw [total_cons]
      omega
    have hbyte : UInt8.ofNat (total (b :: bs) % 128 + 128) = b := by
      have hlow : total (b :: bs) % 128 + 128 = b.toNat := by
        rw [total_cons]
        omega
      rw [hlow, UInt8.ofNat_toNat]
    rw [encode_of_le hlong, hhigh, List.length_cons, List.length_cons] at hlength
    rw [encode_of_le hlong, hhigh, hbyte, ← ih (Nat.succ.inj hlength)]

/-- With `i` bytes behind, a number may have `64 - 7 * i` bits. -/
theorem pow_bits_left {i : Nat} (hi : i < 9) : 2 ^ (64 - 7 * i) = 128 * 2 ^ (64 - 7 * (i + 1)) := by
  have hsplit : 64 - 7 * i = 7 + (64 - 7 * (i + 1)) := by omega
  rw [hsplit, Nat.pow_add]

/-- A reader adds up a number that fits and stops at its end. -/
theorem Delimited.readFrom_append {bs : Bytes} (h : Delimited bs) {i : Nat} (hi : i + bs.length ≤ 10)
    (hfits : total bs < 2 ^ (64 - 7 * i)) (rest : Bytes) :
    readFrom i (bs ++ rest) = ⟨.ok (total bs), i + bs.length⟩ := by
  induction h generalizing i with
  | @last b hb =>
    have hlast : ¬ (i = 9 ∧ 1 < b.toNat) := by
      rintro ⟨rfl, hbig⟩
      rw [total_singleton hb] at hfits
      exact absurd hfits (Nat.not_lt_of_ge hbig)
    rw [List.singleton_append, readFrom, if_neg hlast, if_pos hb, total_singleton hb,
      List.length_singleton]
  | @more b bs hb rest' ih =>
    have hpos := rest'.length_pos
    rw [List.length_cons] at hi
    rw [total_cons, pow_bits_left (by omega)] at hfits
    have hread := ih (i := i + 1) (by omega) (by omega)
    have hused : i + 1 + bs.length = i + (bs.length + 1) := by omega
    rw [List.cons_append, readFrom, if_neg (by omega), if_neg (by omega), hread, total_cons,
      List.length_cons, hused]
    rfl

/-- What a reader accepts is a number with its end marked that fits a word. -/
theorem delimited_of_readFrom {bs : Bytes} {i n used : Nat} (hi : i ≤ 9)
    (h : readFrom i bs = ⟨.ok n, used⟩) :
    ∃ front, front <+: bs ∧ Delimited front ∧ i + front.length ≤ 10 ∧ total front = n ∧
      n < 2 ^ (64 - 7 * i) ∧ used = i + front.length := by
  induction bs generalizing i n with
  | nil => cases h
  | cons b bs ih =>
    rw [readFrom] at h
    split at h
    · cases h
    · next hfits =>
      split at h
      · next hlast =>
        obtain ⟨hvalue, rfl⟩ := Reading.mk.inj h
        obtain rfl := Except.ok.inj hvalue
        refine ⟨[b], ⟨bs, rfl⟩, .last hlast, ?_, total_singleton hlast, ?_, rfl⟩
        · rw [List.length_singleton]
          omega
        · rcases Nat.lt_or_eq_of_le hi with hlt | rfl
          · rw [pow_bits_left hlt]
            have hpos := Nat.two_pow_pos (64 - 7 * (i + 1))
            omega
          · omega
      · next hmore =>
        have hlt : i < 9 := by omega
        cases hrest : readFrom (i + 1) bs with
        | mk value after =>
          rw [hrest] at h
          obtain ⟨hvalue, rfl⟩ := Reading.mk.inj h
          cases value with
          | error fault => cases hvalue
          | ok high =>
            obtain rfl := Except.ok.inj hvalue
            obtain ⟨front, hfront, hdelimited, hlength, htotal, hhigh, rfl⟩ := ih (by omega) hrest
            refine ⟨b :: front, List.cons_prefix_cons.mpr ⟨rfl, hfront⟩, .more (by omega) hdelimited, ?_, ?_,
              ?_, ?_⟩
            · rw [List.length_cons]
              omega
            · rw [total_cons, htotal]
            · dsimp only
              rw [pow_bits_left hlt]
              omega
            · rw [List.length_cons]
              omega

theorem length_encode_pos (n : Nat) : 0 < (encode n).length := (delimited_encode n).length_pos

theorem readFrom_encode (i : Nat) (hi : i ≤ 9) {n : Nat} (hn : n < 2 ^ (64 - 7 * i)) (rest : Bytes) :
    readFrom i (encode n ++ rest) = ⟨.ok n, i + (encode n).length⟩ := by
  have hpow : 2 ^ (64 - 7 * i) ≤ 2 ^ (7 * (10 - i)) := Nat.pow_le_pow_right (by omega) (by omega)
  have hlength : (encode n).length ≤ 10 - i := length_encode_le (by omega) (by omega)
  have hread := (delimited_encode n).readFrom_append (i := i) (by omega)
  rw [total_encode] at hread
  exact hread hn rest

theorem decode_encode {n : Nat} (hn : n < UInt64.size) (rest : Bytes) :
    decode (encode n ++ rest) = .ok (n, rest) := by
  have hread := readFrom_encode 0 (by omega) hn rest
  rw [decode, read, hread]
  simp

/-- A word moved up by some places, which have to be fewer than it has. -/
def shiftLeft? (x : UInt64) (amount : Nat) : Option UInt64 :=
  if amount < 64 then some (x <<< .ofNat amount) else none

/-- Puts the bits of one byte after the other into a word, each seven places further up, and counts the
bytes. There is no answer at all if a shift would be as wide as the word. -/
def gather (word : UInt64) (shift place : Nat) : Bytes → Option (Except Fault UInt64 × Nat)
  | [] => some (.error .truncated, place)
  | b :: bs =>
    if shift = 63 ∧ 1 < b then some (.error .overflow, place + 1)
    else
      match shiftLeft? (b &&& 0x7F).toUInt64 shift with
      | none => none
      | some bits =>
        if b &&& 0x80 = 0 then some (.ok (word ||| bits), place + 1)
        else if 63 < shift + 7 then some (.error .overflow, place + 1)
        else gather (word ||| bits) (shift + 7) (place + 1) bs

theorem toNat_and_low (b : UInt8) : (b &&& 0x7F).toNat = b.toNat % 128 := by
  rw [UInt8.toNat_and]
  exact Nat.and_two_pow_sub_one_eq_mod b.toNat 7

theorem and_top_eq_zero_iff (b : UInt8) : b &&& 0x80 = 0 ↔ b.toNat < 128 := by
  have hlt := b.toNat_lt
  have htop : (b &&& 0x80).toNat = (b.toNat.testBit 7).toNat * 2 ^ 7 := by
    rw [UInt8.toNat_and]
    exact Nat.and_two_pow b.toNat 7
  have hbit : b.toNat.testBit 7 = decide (128 ≤ b.toNat) := by
    rw [Nat.testBit_eq_decide_div_mod_eq, decide_eq_decide]
    omega
  rw [← UInt8.toNat_inj, htop, hbit]
  by_cases hb : 128 ≤ b.toNat
  · simp [hb, Nat.not_lt_of_ge]
  · simp [hb, Nat.lt_of_not_ge]

/-- Bits that do not run over the end of the word are added above those that are there. -/
theorem toNat_or_shiftLeft {word low : UInt64} {shift : Nat} (hshift : shift < 64)
    (hword : word.toNat < 2 ^ shift) (hlow : low.toNat * 2 ^ shift < UInt64.size) :
    (word ||| low <<< .ofNat shift).toNat = word.toNat + 2 ^ shift * low.toNat := by
  have hamount : (UInt64.ofNat shift).toNat % 64 = shift := by
    rw [UInt64.toNat_ofNat']
    omega
  rw [UInt64.toNat_or, UInt64.toNat_shiftLeft, hamount, Nat.shiftLeft_eq, Nat.mod_eq_of_lt hlow,
    Nat.or_comm, Nat.mul_comm, ← Nat.two_pow_add_eq_or_of_lt hword, Nat.add_comm]

theorem low_bits_fit {b : UInt8} {i : Nat} (hi : i ≤ 9) (hfits : ¬ (i = 9 ∧ 1 < b.toNat)) :
    b.toNat % 128 * 2 ^ (7 * i) < UInt64.size := by
  rcases Nat.lt_or_eq_of_le hi with hlt | rfl
  · have hpow : 2 ^ (7 * i) ≤ 2 ^ 56 := Nat.pow_le_pow_right (by omega) (by omega)
    calc b.toNat % 128 * 2 ^ (7 * i)
        ≤ 127 * 2 ^ 56 := Nat.mul_le_mul (by omega) hpow
      _ < UInt64.size := by decide
  · calc b.toNat % 128 * 2 ^ (7 * 9)
        ≤ 1 * 2 ^ (7 * 9) := Nat.mul_le_mul_right _ (by omega)
      _ < UInt64.size := by decide

/-- The word that is gathered is the number that is read, and no shift is as wide as a word: with `i` bytes
behind, the next bits go `7 * i` places up, and at the tenth byte only one bit is left to come. -/
theorem gather_eq {word : UInt64} {i : Nat} (hi : i ≤ 9) (hword : word.toNat < 2 ^ (7 * i)) (place : Nat)
    (bs : Bytes) :
    gather word (7 * i) (place + i) bs =
      some ((readFrom i bs).value.map fun n => .ofNat (word.toNat + 2 ^ (7 * i) * n),
        place + (readFrom i bs).used) := by
  induction bs generalizing word i with
  | nil => rfl
  | cons b bs ih =>
    have hlast : 7 * i = 63 ∧ 1 < b ↔ i = 9 ∧ 1 < b.toNat := by
      have hone : 1 < b ↔ 1 < b.toNat := UInt8.lt_iff_toNat_lt
      rw [hone]
      omega
    rw [gather, readFrom, Nat.add_assoc]
    by_cases hfits : i = 9 ∧ 1 < b.toNat
    · rw [if_pos (hlast.mpr hfits), if_pos hfits]
      rfl
    · have hbits : (b &&& 0x7F).toUInt64.toNat = b.toNat % 128 := by
        rw [UInt8.toNat_toUInt64, toNat_and_low]
      have hgathered := toNat_or_shiftLeft (by omega) hword (by
        rw [hbits]
        exact low_bits_fit hi hfits)
      rw [hbits] at hgathered
      rw [if_neg (mt hlast.mp hfits), if_neg hfits, shiftLeft?, if_pos (by omega)]
      simp only [and_top_eq_zero_iff]
      generalize word ||| (b &&& 0x7F).toUInt64 <<< .ofNat (7 * i) = gathered at hgathered ⊢
      by_cases hend : b.toNat < 128
      · rw [Nat.mod_eq_of_lt hend] at hgathered
        rw [if_pos hend, if_pos hend, ← UInt64.ofNat_toNat (x := gathered), hgathered]
        rfl
      · -- The tenth byte is 0 or 1 here, so one with more to follow is not the tenth.
        have hlt : i < 9 := by omega
        have hpow : 2 ^ (7 * (i + 1)) = 2 ^ (7 * i) * 128 := by rw [Nat.mul_succ, Nat.pow_add]
        have hnext : gathered.toNat < 2 ^ (7 * (i + 1)) := by
          have hlow : 2 ^ (7 * i) * (b.toNat % 128) ≤ 2 ^ (7 * i) * 127 :=
            Nat.mul_le_mul_left _ (by omega)
          rw [hpow, hgathered]
          omega
        rw [if_neg hend, if_neg hend, if_neg (by omega), ← Nat.mul_succ, ih hlt hnext, hpow, hgathered]
        cases (readFrom (i + 1) bs).value with
        | error fault => rfl
        | ok n =>
          have hsum : word.toNat + 2 ^ (7 * i) * (b.toNat % 128) + 2 ^ (7 * i) * 128 * n =
              word.toNat + 2 ^ (7 * i) * (b.toNat % 128 + 128 * n) := by
            rw [Nat.mul_add, Nat.mul_assoc, Nat.add_assoc]
          simp only [Except.map, hsum]

/-- Reads the number at a place into a word, and tells where it has stopped. -/
def scan (data : Bytes) (place : Nat) : Option (Except Fault UInt64 × Nat) :=
  gather 0 0 place (data.drop place)

/-- A reader that gathers the bits in a word by shifts finds the same number and the same end, and never
shifts too far. -/
theorem scan_eq (data : Bytes) (place : Nat) :
    scan data place = some ((read (data.drop place)).value.map .ofNat,
      place + (read (data.drop place)).used) := by
  have hword : (0 : UInt64).toNat < 2 ^ (7 * 0) := by decide
  have hgather := gather_eq (by omega) hword place (data.drop place)
  simp only [Nat.mul_zero, Nat.pow_zero, Nat.one_mul, UInt64.toNat_zero, Nat.zero_add] at hgather
  exact hgather

/-- The byte strings that are accepted are those of at most ten bytes whose sum fits a word. -/
theorem scan_eq_ok_iff {data : Bytes} {place stop : Nat} {x : UInt64} :
    scan data place = some (.ok x, stop) ↔ ∃ bs, bs <+: data.drop place ∧ Delimited bs ∧
      bs.length ≤ 10 ∧ total bs = x.toNat ∧ stop = place + bs.length := by
  rw [scan_eq, Option.some.injEq, Prod.mk.injEq]
  constructor
  · rintro ⟨hvalue, rfl⟩
    obtain ⟨n, hn, rfl⟩ := Results.map_eq_ok hvalue
    have hread : readFrom 0 (data.drop place) = ⟨.ok n, (read (data.drop place)).used⟩ := by
      rw [← hn]
      rfl
    obtain ⟨bs, hbs, hdelimited, hlength, rfl, hlt, hused⟩ := delimited_of_readFrom (by omega) hread
    rw [Nat.zero_add] at hlength hused
    exact ⟨bs, hbs, hdelimited, hlength, (UInt64.toNat_ofNat_of_lt' hlt).symm, by rw [hused]⟩
  · rintro ⟨bs, ⟨rest, hrest⟩, hdelimited, hlength, htotal, rfl⟩
    have hread := hdelimited.readFrom_append (i := 0) (by omega) (htotal ▸ x.toNat_lt) rest
    rw [hrest, Nat.zero_add] at hread
    rw [read, hread, htotal]
    exact ⟨by simp [Except.map], rfl⟩

theorem scan_or_refuse (data : Bytes) (place : Nat) :
    (∃ x stop, scan data place = some (.ok x, stop) ∧
      Document.readVarint (data.drop place) = .ok (x.toNat, data.drop stop)) ∨
    ∃ fault stop, scan data place = some (.error fault, stop) ∧
      Document.readVarint (data.drop place) = .error (.format fault.reason) := by
  rw [Document.readVarint, decode]
  cases hread : read (data.drop place) with
  | mk value used =>
    have hscan := scan_eq data place
    rw [hread] at hscan
    cases value with
    | error fault => exact .inr ⟨fault, place + used, hscan, rfl⟩
    | ok n =>
      refine .inl ⟨.ofNat n, place + used, hscan, ?_⟩
      obtain ⟨-, -, -, -, -, hlt, -⟩ := delimited_of_readFrom (by omega) hread
      rw [UInt64.toNat_ofNat_of_lt' hlt, ← List.drop_drop]
      rfl

/-- What is written for a word is read back from where it stands, and nothing shorter is read as that word.
From any bytes and any place a number is read just if one of at most ten bytes stands there and fits a word;
it is then the sum of all its bits, and what follows it comes next. All else is refused for its format. No
shift is as wide as a word, or there would be no answer. -/
theorem numbers_are_read_exactly :
    (∀ (x : UInt64) (front back : Bytes),
      scan (front ++ encode x.toNat ++ back) front.length =
        some (.ok x, front.length + (encode x.toNat).length)) ∧
    (∀ x : UInt64, 1 ≤ (encode x.toNat).length ∧ (encode x.toNat).length ≤ 10 ∧
      ∀ bs, scan bs 0 = some (.ok x, bs.length) → (encode x.toNat).length ≤ bs.length ∧
        (bs.length = (encode x.toNat).length → bs = encode x.toNat)) ∧
    ∀ (data : Bytes) (place : Nat),
      ((∃ x stop, scan data place = some (.ok x, stop)) ↔ ∃ bs, bs <+: data.drop place ∧
        Delimited bs ∧ bs.length ≤ 10 ∧ total bs < UInt64.size) ∧
      (∀ x stop, scan data place = some (.ok x, stop) → ∃ bs, bs <+: data.drop place ∧
        Delimited bs ∧ x.toNat = total bs ∧ stop = place + bs.length) ∧
      ((∃ x stop, scan data place = some (.ok x, stop) ∧
        Document.readVarint (data.drop place) = .ok (x.toNat, data.drop stop)) ∨
      ∃ fault stop, scan data place = some (.error fault, stop) ∧
        Document.readVarint (data.drop place) = .error (.format fault.reason)) := by
  have hten (x : UInt64) : (encode x.toNat).length ≤ 10 := by
    have hlt := x.toNat_lt
    exact length_encode_le (by omega) (by omega)
  refine ⟨fun x front back => ?_, fun x => ⟨length_encode_pos _, hten x, fun bs hbs => ?_⟩,
    fun data place => ⟨?_, fun x stop h => ?_, scan_or_refuse data place⟩⟩
  · rw [scan_eq_ok_iff, List.append_assoc, List.drop_left]
    exact ⟨encode x.toNat, List.prefix_append _ back, delimited_encode _, hten x, total_encode _, rfl⟩
  · obtain ⟨number, hnumber, hdelimited, -, htotal, hlength⟩ := scan_eq_ok_iff.mp hbs
    rw [Nat.zero_add] at hlength
    obtain rfl : number = bs := hnumber.eq_of_length hlength.symm
    rw [← htotal]
    exact hdelimited.shortest
  · constructor
    · rintro ⟨x, stop, h⟩
      obtain ⟨bs, hbs, hdelimited, hlength, htotal, -⟩ := scan_eq_ok_iff.mp h
      exact ⟨bs, hbs, hdelimited, hlength, htotal ▸ x.toNat_lt⟩
    · rintro ⟨bs, hbs, hdelimited, hlength, hlt⟩
      exact ⟨.ofNat (total bs), place + bs.length, scan_eq_ok_iff.mpr
        ⟨bs, hbs, hdelimited, hlength, (UInt64.toNat_ofNat_of_lt' hlt).symm, rfl⟩⟩
  · obtain ⟨bs, hbs, hdelimited, -, htotal, hstop⟩ := scan_eq_ok_iff.mp h
    exact ⟨bs, hbs, hdelimited, htotal.symm, hstop⟩

/-- The largest word takes ten bytes. Zero in two bytes is read, but not shortest, and ten bytes that come
to more than a word are refused. -/
theorem numbers_are_read_exactly_largest :
    scan ([0x80] ++ encode (2 ^ 64 - 1) ++ [0x80]) 1 = some (.ok (.ofNat (2 ^ 64 - 1)), 11) ∧
      scan [0x80, 0] 0 = some (.ok 0, 2) ∧ (encode 0).length ≤ 2 ∧
      (∃ bs, bs <+: [0x80, 0] ∧ Delimited bs ∧ total bs = 0 ∧ bs.length = 2) ∧
      ¬ ∃ x stop, scan (List.replicate 9 0xFF ++ [2]) 0 = some (.ok x, stop) := by
  obtain ⟨hwritten, hshortest, hread⟩ := numbers_are_read_exactly
  have hzero : scan [0x80, 0] 0 = some (.ok 0, 2) := rfl
  refine ⟨?_, hzero, ((hshortest 0).2.2 [0x80, 0] hzero).1, ?_, ?_⟩
  · have hlength : (encode (2 ^ 64 - 1)).length = 10 := by simp [encode]
    have hword : (UInt64.ofNat (2 ^ 64 - 1)).toNat = 2 ^ 64 - 1 := rfl
    have hscan := hwritten (.ofNat (2 ^ 64 - 1)) [0x80] [0x80]
    rw [hword, hlength] at hscan
    exact hscan
  · obtain ⟨bs, hbs, hdelimited, htotal, hstop⟩ := (hread [0x80, 0] 0).2.1 0 2 hzero
    exact ⟨bs, hbs, hdelimited, htotal.symm, by omega⟩
  · rcases (hread (List.replicate 9 0xFF ++ [2]) 0).2.2 with ⟨x, stop, hscan, -⟩ | ⟨fault, stop, hscan, -⟩
    · cases hscan
    · rw [hscan]
      rintro ⟨x, stop, h⟩
      cases h

end InvertedIndex.Varint
