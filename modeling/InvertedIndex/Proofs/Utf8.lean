import InvertedIndex.Utf8

namespace InvertedIndex.Utf8

theorem toNat_ofNat {n : Nat} (h : n.isValidChar) : (Char.ofNat n).toNat = n := by
  unfold Char.ofNat
  rw [dif_pos h]
  rfl

theorem toNat_isValidChar (c : Char) : c.toNat.isValidChar := c.valid

/-- The encoding of a character, by the size of its number. -/
theorem encodeChar_eq (c : Char) : String.utf8EncodeChar c =
    if c.toNat ≤ 0x7F then [.ofNat c.toNat]
    else if c.toNat ≤ 0x7FF then
      [.ofNat (c.toNat / 64 % 32 + 0xC0), .ofNat (c.toNat % 64 + 0x80)]
    else if c.toNat ≤ 0xFFFF then
      [.ofNat (c.toNat / 4096 % 16 + 0xE0), .ofNat (c.toNat / 64 % 64 + 0x80),
        .ofNat (c.toNat % 64 + 0x80)]
    else
      [.ofNat (c.toNat / 262144 % 8 + 0xF0), .ofNat (c.toNat / 4096 % 64 + 0x80),
        .ofNat (c.toNat / 64 % 64 + 0x80), .ofNat (c.toNat % 64 + 0x80)] := rfl

theorem ofNat_eq {b : UInt8} {n : Nat} (h : n = b.toNat) : UInt8.ofNat n = b := by
  rw [h, UInt8.ofNat_toNat]

theorem toNat_ofNat_byte {n : Nat} (h : n < 256) : (UInt8.ofNat n).toNat = n := by
  simp [Nat.mod_eq_of_lt h]

theorem isContinuation_iff (b : UInt8) :
    isContinuation b = true ↔ 0x80 ≤ b.toNat ∧ b.toNat < 0xC0 := by
  simp [isContinuation, UInt8.le_iff_toNat_le, UInt8.lt_iff_toNat_lt]

theorem eq_iff_toNat {b : UInt8} {n : Nat} (hn : n < 256) : b = .ofNat n ↔ b.toNat = n := by
  rw [← UInt8.toNat_inj, toNat_ofNat_byte hn]

/-- The shortest form, no surrogates, and nothing past the last scalar value. -/
theorem isSecond_iff (b c : UInt8) : isSecond b c = true ↔
    0x80 ≤ c.toNat ∧ c.toNat < 0xC0 ∧ (b.toNat = 0xE0 → 0xA0 ≤ c.toNat) ∧
      (b.toNat = 0xED → c.toNat < 0xA0) ∧ (b.toNat = 0xF0 → 0x90 ≤ c.toNat) ∧
      (b.toNat = 0xF4 → c.toNat < 0x90) := by
  have hE0 : b = 0xE0 ↔ b.toNat = 0xE0 := eq_iff_toNat (by decide)
  have hED : b = 0xED ↔ b.toNat = 0xED := eq_iff_toNat (by decide)
  have hF0 : b = 0xF0 ↔ b.toNat = 0xF0 := eq_iff_toNat (by decide)
  have hF4 : b = 0xF4 ↔ b.toNat = 0xF4 := eq_iff_toNat (by decide)
  unfold isSecond secondRange
  rw [Bool.and_eq_true, decide_eq_true_eq, decide_eq_true_eq, UInt8.le_iff_toNat_le,
    UInt8.le_iff_toNat_le]
  simp only [hE0, hED, hF0, hF4]
  split
  · simp only [UInt8.reduceToNat]; omega
  · split
    · simp only [UInt8.reduceToNat]; omega
    · split
      · simp only [UInt8.reduceToNat]; omega
      · split <;> simp only [UInt8.reduceToNat] <;> omega

/-- What is read from two bytes is the encoding of a character. -/
theorem head2_eq {b : UInt8} {r : Bytes} {c : Char} {w : Nat} (hlo : 0xC2 ≤ b.toNat)
    (hhi : b.toNat ≤ 0xDF) (h : head2 b r = .char c w) :
    w = (String.utf8EncodeChar c).length ∧ ∃ rest, b :: r = String.utf8EncodeChar c ++ rest := by
  unfold head2 at h
  split at h
  · cases h
  · next d rest =>
    split at h
    · next hd =>
      obtain ⟨h80, hC0⟩ := (isContinuation_iff d).mp hd
      injection h with hc hw
      have hvalid : (b.toNat % 32 * 64 + payload d).isValidChar := by
        unfold payload Nat.isValidChar
        omega
      have henc : String.utf8EncodeChar c = [b, d] := by
        rw [← hc, encodeChar_eq, toNat_ofNat hvalid]
        unfold payload
        rw [if_neg (by omega), if_pos (by omega), ofNat_eq (b := b) (by omega),
          ofNat_eq (b := d) (by omega)]
      exact ⟨by rw [henc, ← hw]; rfl, rest, by rw [henc]; rfl⟩
    · cases h

/-- What is read from three bytes is the encoding of a character. Surrogates are excluded by the range of
the second byte. -/
theorem head3_eq {b : UInt8} {r : Bytes} {c : Char} {w : Nat} (hlo : 0xE0 ≤ b.toNat)
    (hhi : b.toNat ≤ 0xEF) (h : head3 b r = .char c w) :
    w = (String.utf8EncodeChar c).length ∧ ∃ rest, b :: r = String.utf8EncodeChar c ++ rest := by
  unfold head3 at h
  split at h
  · cases h
  · next d r =>
    split at h
    · cases h
    · next hd =>
      rw [Bool.not_eq_true, Bool.not_eq_false'] at hd
      have hd := (isSecond_iff b d).mp hd
      split at h
      · cases h
      · next e rest =>
        split at h
        · next he =>
          have he := (isContinuation_iff e).mp he
          injection h with hc hw
          have hvalid : ((b.toNat % 16 * 64 + payload d) * 64 + payload e).isValidChar := by
            unfold payload Nat.isValidChar
            omega
          have henc : String.utf8EncodeChar c = [b, d, e] := by
            rw [← hc, encodeChar_eq, toNat_ofNat hvalid]
            unfold payload
            rw [if_neg (by omega), if_neg (by omega), if_pos (by omega),
              ofNat_eq (b := b) (by omega), ofNat_eq (b := d) (by omega),
              ofNat_eq (b := e) (by omega)]
          exact ⟨by rw [henc, ← hw]; rfl, rest, by rw [henc]; rfl⟩
        · cases h

/-- What is read from four bytes is the encoding of a character. Values past the last one are excluded by
the range of the second byte. -/
theorem head4_eq {b : UInt8} {r : Bytes} {c : Char} {w : Nat} (hlo : 0xF0 ≤ b.toNat)
    (hhi : b.toNat ≤ 0xF4) (h : head4 b r = .char c w) :
    w = (String.utf8EncodeChar c).length ∧ ∃ rest, b :: r = String.utf8EncodeChar c ++ rest := by
  unfold head4 at h
  split at h
  · cases h
  · next d r =>
    split at h
    · cases h
    · next hd =>
      rw [Bool.not_eq_true, Bool.not_eq_false'] at hd
      have hd := (isSecond_iff b d).mp hd
      split at h
      · cases h
      · next e r =>
        split at h
        · cases h
        · next he =>
          rw [Bool.not_eq_true, Bool.not_eq_false'] at he
          have he := (isContinuation_iff e).mp he
          split at h
          · cases h
          · next f rest =>
            split at h
            · next hf =>
              have hf := (isContinuation_iff f).mp hf
              injection h with hc hw
              have hvalid : (((b.toNat % 8 * 64 + payload d) * 64 + payload e) * 64
                  + payload f).isValidChar := by
                unfold payload Nat.isValidChar
                omega
              have henc : String.utf8EncodeChar c = [b, d, e, f] := by
                rw [← hc, encodeChar_eq, toNat_ofNat hvalid]
                unfold payload
                rw [if_neg (by omega), if_neg (by omega), if_neg (by omega),
                  ofNat_eq (b := b) (by omega), ofNat_eq (b := d) (by omega),
                  ofNat_eq (b := e) (by omega), ofNat_eq (b := f) (by omega)]
              exact ⟨by rw [henc, ← hw]; rfl, rest, by rw [henc]; rfl⟩
            · cases h

/-- The first byte tells how long a character is. -/
theorem head?_cons (b : UInt8) (r : Bytes) : head? (b :: r) = some (
    if b.toNat < 0x80 then .char (.ofNat b.toNat) 1
    else if 0xC2 ≤ b.toNat ∧ b.toNat ≤ 0xDF then head2 b r
    else if 0xE0 ≤ b.toNat ∧ b.toNat ≤ 0xEF then head3 b r
    else if 0xF0 ≤ b.toNat ∧ b.toNat ≤ 0xF4 then head4 b r
    else .invalid 1) := by
  simp only [head?, UInt8.lt_iff_toNat_lt, UInt8.le_iff_toNat_le, Bool.and_eq_true,
    decide_eq_true_eq, UInt8.reduceToNat]

/-- What `head?` finds stands there. -/
theorem eq_append_of_head? {bs : Bytes} {c : Char} {w : Nat} (h : head? bs = some (.char c w)) :
    w = (String.utf8EncodeChar c).length ∧ ∃ rest, bs = String.utf8EncodeChar c ++ rest := by
  cases bs with
  | nil => cases h
  | cons b r =>
    rw [head?_cons, Option.some.injEq] at h
    split at h
    · next hb =>
      injection h with hc hw
      have hvalid : b.toNat.isValidChar := by
        unfold Nat.isValidChar
        omega
      have henc : String.utf8EncodeChar c = [b] := by
        rw [← hc, encodeChar_eq, toNat_ofNat hvalid, if_pos (by omega), UInt8.ofNat_toNat]
      exact ⟨by rw [henc, ← hw]; rfl, r, by rw [henc]; rfl⟩
    · split at h
      · next hb => exact head2_eq hb.1 hb.2 h
      · split at h
        · next hb => exact head3_eq hb.1 hb.2 h
        · split at h
          · next hb => exact head4_eq hb.1 hb.2 h
          · cases h

/-- Where the encoding of a character stands, `head?` finds it. -/
theorem head?_encodeChar_append (c : Char) (rest : Bytes) :
    head? (String.utf8EncodeChar c ++ rest) = some (.char c (String.utf8EncodeChar c).length) := by
  have hvalid := toNat_isValidChar c
  unfold Nat.isValidChar at hvalid
  have hc {n : Nat} (hn : n = c.toNat) : Char.ofNat n = c := by rw [hn, Char.ofNat_toNat]
  have hbyte {n : Nat} (hn : n < 256) := toNat_ofNat_byte hn
  rw [encodeChar_eq]
  split
  · rw [List.singleton_append, head?_cons, hbyte (by omega), if_pos (by omega), hc rfl]
    rfl
  · split
    · rw [List.cons_append, List.singleton_append, head?_cons, hbyte (by omega),
        if_neg (by omega), if_pos (by omega), head2,
        if_pos ((isContinuation_iff _).mpr (by rw [hbyte (by omega)]; omega)), payload,
        hbyte (by omega), hbyte (by omega), hc (by omega)]
      rfl
    · split
      · rw [List.cons_append, List.cons_append, List.singleton_append, head?_cons,
          hbyte (by omega), if_neg (by omega), if_neg (by omega), if_pos (by omega), head3]
        rw [(isSecond_iff _ _).mpr (by rw [hbyte (by omega), hbyte (by omega)]; omega)]
        simp only [Bool.not_true, Bool.false_eq_true, if_false]
        rw [if_pos ((isContinuation_iff _).mpr (by rw [hbyte (by omega)]; omega)), payload, payload,
          hbyte (by omega), hbyte (by omega), hbyte (by omega), hc (by omega)]
        rfl
      · rw [List.cons_append, List.cons_append, List.cons_append, List.singleton_append,
          head?_cons, hbyte (by omega), if_neg (by omega), if_neg (by omega), if_neg (by omega),
          if_pos (by omega), head4]
        rw [(isSecond_iff _ _).mpr (by rw [hbyte (by omega), hbyte (by omega)]; omega),
          (isContinuation_iff (.ofNat (c.toNat / 64 % 64 + 0x80))).mpr
            (by rw [hbyte (by omega)]; omega)]
        simp only [Bool.not_true, Bool.false_eq_true, if_false]
        rw [if_pos ((isContinuation_iff _).mpr (by rw [hbyte (by omega)]; omega)), payload, payload,
          payload, hbyte (by omega), hbyte (by omega), hbyte (by omega), hbyte (by omega),
          hc (by omega)]
        rfl

theorem length_encodeChar_pos (c : Char) : 0 < (String.utf8EncodeChar c).length :=
  List.length_pos_iff.mpr String.utf8EncodeChar_ne_nil

theorem length_le_encode (cs : List Char) : cs.length ≤ (encode cs).length := by
  induction cs with
  | nil => exact Nat.le_refl _
  | cons c cs ih =>
    have hc := length_encodeChar_pos c
    rw [encode_cons, List.length_append, List.length_cons]
    omega

theorem decodeFrom_encode (cs : List Char) (fuel index : Nat) (h : cs.length ≤ fuel) :
    decodeFrom fuel index (encode cs) = .ok cs := by
  induction cs generalizing fuel index with
  | nil => cases fuel <;> rfl
  | cons c cs ih =>
    cases fuel with
    | zero => simp at h
    | succ fuel =>
      rw [decodeFrom, encode_cons, head?_encodeChar_append]
      simp only
      rw [List.drop_left, ih _ _ (by simpa using h)]

/-- Only encodings are decoded. -/
theorem eq_encode_of_decodeFrom {fuel index : Nat} {bs : Bytes} {cs : List Char}
    (hfuel : bs.length ≤ fuel) (h : decodeFrom fuel index bs = .ok cs) : bs = encode cs := by
  induction fuel generalizing index bs cs with
  | zero =>
    obtain rfl : bs = [] := List.eq_nil_of_length_eq_zero (by omega)
    obtain rfl : [] = cs := Except.ok.inj h
    rfl
  | succ fuel ih =>
    rw [decodeFrom] at h
    split at h
    · next hhead =>
      obtain rfl : [] = cs := Except.ok.inj h
      cases bs with
      | nil => rfl
      | cons b r => simp [head?] at hhead
    · next c w hhead =>
      obtain ⟨rfl, rest, rfl⟩ := eq_append_of_head? hhead
      have hpos := length_encodeChar_pos c
      rw [List.drop_left] at h
      split at h
      · next ds hds =>
        obtain rfl : c :: ds = cs := Except.ok.inj h
        rw [List.length_append] at hfuel
        rw [encode_cons, ← ih (by omega) hds]
      · cases h
    · cases h
    · cases h

/-- Decoding succeeds just on encodings. -/
theorem decode_eq_ok_iff {bs : Bytes} {cs : List Char} : decode bs = .ok cs ↔ bs = encode cs := by
  constructor
  · exact eq_encode_of_decodeFrom (Nat.le_refl _)
  · rintro rfl
    exact decodeFrom_encode cs _ 0 (length_le_encode cs)

theorem decode_encode (cs : List Char) : decode (encode cs) = .ok cs := decode_eq_ok_iff.mpr rfl

theorem encode_injective {cs ds : List Char} (h : encode cs = encode ds) : cs = ds := by
  have hc := decode_encode cs
  rw [h, decode_encode] at hc
  exact (Except.ok.inj hc).symm

/-- What text goes on with after text is text. -/
theorem eq_encode_of_append {cs ds : List Char} {z : Bytes}
    (h : encode cs ++ z = encode ds) : ∃ zs, ds = cs ++ zs ∧ z = encode zs := by
  induction cs generalizing ds with
  | nil => exact ⟨ds, rfl, h⟩
  | cons c cs ih =>
    rw [encode_cons, List.append_assoc] at h
    have hhead := head?_encodeChar_append c (encode cs ++ z)
    cases ds with
    | nil =>
      rw [h] at hhead
      cases hhead
    | cons d ds =>
      rw [h, encode_cons, head?_encodeChar_append] at hhead
      simp only [Option.some.injEq, Head.char.injEq] at hhead
      rw [encode_cons, hhead.1] at h
      obtain ⟨zs, rfl, hz⟩ := ih (List.append_cancel_left h)
      exact ⟨zs, by rw [hhead.1, List.cons_append], hz⟩

end InvertedIndex.Utf8
