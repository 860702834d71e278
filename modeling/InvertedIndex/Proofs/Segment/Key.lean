import InvertedIndex.Proofs.Document
import InvertedIndex.Segment.Key

namespace InvertedIndex.Segment.Key

open Document (separator separatorBytes IsPlain)

theorem separatorBytes_eq : separatorBytes = [0xEE, 0x80, 0x80] := by decide

/-- A separator behind a part of another one stands behind all of it. -/
theorem overlap {a x y : Bytes} (h : separatorBytes ++ x = a ++ (separatorBytes ++ y)) :
    a = [] ∨ ∃ b, a = separatorBytes ++ b ∧ x = b ++ separatorBytes ++ y := by
  rw [separatorBytes_eq] at h ⊢
  match a with
  | [] => exact .inl rfl
  | [p] => simp at h
  | [p, q] => simp at h
  | p :: q :: r :: b =>
    simp only [List.cons_append, List.nil_append, List.cons.injEq] at h
    obtain ⟨rfl, rfl, rfl, rfl⟩ := h
    exact .inr ⟨b, rfl, by simp⟩

/-- Only the first byte of a character has both of its upper bits set. -/
theorem not_mem_tail_encodeChar (c : Char) : ∀ b ∈ (String.utf8EncodeChar c).tail, b.toNat < 0xC0 := by
  have hbyte (n : Nat) : (UInt8.ofNat (n % 64 + 0x80)).toNat < 0xC0 := by
    rw [Utf8.toNat_ofNat_byte (by omega)]
    omega
  rw [Utf8.encodeChar_eq]
  split
  · simp
  · split
    · simpa using hbyte _
    · split
      · simpa using ⟨hbyte _, hbyte _⟩
      · simpa using ⟨hbyte _, hbyte _, hbyte _⟩

/-- The separator does not occur among the bytes of other characters. -/
theorem not_isInfix_encode {cs : List Char} (h : separator ∉ cs) :
    ¬ separatorBytes <:+: Utf8.encode cs := by
  induction cs with
  | nil => decide
  | cons c cs ih =>
    rw [List.mem_cons, not_or] at h
    intro hinfix
    obtain ⟨front, back, heq⟩ := hinfix
    rw [Utf8.encode_cons, List.append_assoc, List.append_eq_append_iff] at heq
    cases heq with
    | inl heq =>
      obtain ⟨b, hchar, hrest⟩ := heq
      cases front with
      | nil =>
        have hhead := Utf8.head?_encodeChar_append c (Utf8.encode cs)
        have hseparator := Utf8.head?_encodeChar_append separator back
        have hbytes : separatorBytes = String.utf8EncodeChar separator := List.append_nil _
        rw [List.nil_append] at hchar
        rw [hchar, ← hrest, hbytes, hseparator] at hhead
        simp only [Option.some.injEq, Utf8.Head.char.injEq] at hhead
        exact h.1 hhead.1
      | cons x front =>
        cases b with
        | nil => exact ih h.2 ⟨[], back, by simpa using hrest⟩
        | cons y b =>
          simp only [separatorBytes_eq, List.cons_append, List.cons.injEq] at hrest
          have hmem : y ∈ (String.utf8EncodeChar c).tail := by
            rw [hchar]
            simp
          have hlt := not_mem_tail_encodeChar c y hmem
          rw [← hrest.1] at hlt
          exact absurd hlt (by decide)
    | inr heq =>
      obtain ⟨b, -, hrest⟩ := heq
      exact ih h.2 ⟨b, back, by rw [hrest, List.append_assoc]⟩

theorem not_isInfix_of_isPlain {bs : Bytes} (h : IsPlain bs) : ¬ separatorBytes <:+: bs := by
  obtain ⟨cs, rfl, hcs⟩ := h
  exact not_isInfix_encode hcs

/-- Field and term can be told from the key if neither holds the separator. -/
theorem encode_inj {f v field term : Bytes} (hf : ¬ separatorBytes <:+: f)
    (hv : ¬ separatorBytes <:+: v) (h : encode field term = encode f v) : field = f ∧ term = v := by
  rw [encode, encode, List.append_assoc, List.append_assoc, List.append_eq_append_iff] at h
  cases h with
  | inl h =>
    obtain ⟨a, hfa, h⟩ := h
    cases overlap h with
    | inl hnil =>
      subst hnil
      rw [List.append_nil] at hfa
      exact ⟨hfa.symm, List.append_cancel_left h⟩
    | inr hb =>
      obtain ⟨b, rfl, -⟩ := hb
      exact absurd ⟨field, b, by rw [hfa, List.append_assoc]⟩ hf
  | inr h =>
    obtain ⟨a, hfa, h⟩ := h
    cases overlap h with
    | inl hnil =>
      subst hnil
      rw [List.append_nil] at hfa
      exact ⟨hfa, (List.append_cancel_left h).symm⟩
    | inr hb =>
      obtain ⟨b, -, hvb⟩ := hb
      exact absurd ⟨b, term, hvb.symm⟩ hv

theorem split?_encode {f : Bytes} (hf : ¬ separatorBytes <:+: f) (v : Bytes) :
    split? (encode f v) = some (f, v) := by
  induction f with
  | nil =>
    have hkey : encode [] v = 0xEE :: 0x80 :: 0x80 :: v := by
      rw [encode, separatorBytes_eq]
      rfl
    have hseparator : separatorBytes.isPrefixOf (0xEE :: 0x80 :: 0x80 :: v) = true := by
      rw [separatorBytes_eq, List.isPrefixOf_iff_prefix]
      exact ⟨v, rfl⟩
    rw [hkey, split?, if_pos hseparator, separatorBytes_eq]
    rfl
  | cons b f ih =>
    have hrest : ¬ separatorBytes <:+: f := fun h => hf (h.trans (List.suffix_cons b f).isInfix)
    have hkey : encode (b :: f) v = b :: encode f v := rfl
    have hnot : ¬ separatorBytes.isPrefixOf (b :: encode f v) = true := by
      intro h
      obtain ⟨x, hx⟩ := List.isPrefixOf_iff_prefix.mp h
      have hover : separatorBytes ++ x = (b :: f) ++ (separatorBytes ++ v) := by
        rw [hx, encode]
        simp
      cases overlap hover with
      | inl hnil => cases hnil
      | inr ha =>
        obtain ⟨a, ha, -⟩ := ha
        rw [ha] at hf
        exact hf ⟨[], a, rfl⟩
    rw [hkey, split?, if_neg hnot, ih hrest]
    rfl

theorem decode_encode {f : Bytes} (hf : ¬ separatorBytes <:+: f) (v : Bytes) :
    decode (encode f v) = .ok (f, v) := by
  rw [decode, split?_encode hf]

/-- What lies between two strings that differ in the last byte, by one, begins with the first. -/
theorem between_iff {front key : Bytes} {a b : UInt8} (h : b.toNat = a.toNat + 1) :
    front ++ [a] ≤ key ∧ key < front ++ [b] ↔ front ++ [a] <+: key := by
  induction front generalizing key with
  | nil =>
    cases key with
    | nil => simp
    | cons k key =>
      simp only [List.nil_append, List.cons_le_cons_iff, List.cons_lt_cons_iff, List.nil_le,
        List.not_lt_nil, and_true, and_false, or_false, List.cons_prefix_cons, List.nil_prefix,
        UInt8.lt_iff_toNat_lt, ← UInt8.toNat_inj]
      omega
  | cons x front ih =>
    cases key with
    | nil => simp
    | cons k key =>
      simp only [List.cons_append, List.cons_le_cons_iff, List.cons_lt_cons_iff,
        List.cons_prefix_cons, ← ih, UInt8.lt_iff_toNat_lt, ← UInt8.toNat_inj]
      by_cases hx : x.toNat = k.toNat
      · simp [hx]
      · have hne : ¬ k.toNat = x.toNat := fun h => hx h.symm
        simp only [hx, hne, false_and, or_false, iff_false]
        omega

theorem inField_iff {field key : Bytes} : inField field key = true ↔ start field <+: key := by
  have hstart : start field = field ++ [0xEE, 0x80] ++ [0x80] := by
    rw [start, separatorBytes_eq]
    simp
  have hstop : stop field = field ++ [0xEE, 0x80] ++ [0x81] := by
    rw [stop, behindSeparator]
    simp
  rw [inField, Bool.and_eq_true, decide_eq_true_iff, decide_eq_true_iff, hstart, hstop]
  exact between_iff rfl

theorem inField_encode {f v : Bytes} (hf : ¬ separatorBytes <:+: f) (hv : ¬ separatorBytes <:+: v)
    {field : Bytes} : inField field (encode f v) = true ↔ field = f := by
  rw [inField_iff]
  constructor
  · intro h
    obtain ⟨rest, hrest⟩ := h
    exact (encode_inj hf hv hrest).1
  · intro h
    rw [h]
    exact ⟨v, rfl⟩

/-- Strings that begin two others are in the order of these, unless one begins the other. -/
theorem lt_or_prefix_of_append_lt {a b s t : Bytes} (h : a ++ s < b ++ t) :
    a < b ∨ a <+: b ∨ b <+: a := by
  induction a generalizing b with
  | nil => exact .inr (.inl List.nil_prefix)
  | cons x a ih =>
    cases b with
    | nil => exact .inr (.inr List.nil_prefix)
    | cons y b =>
      rw [List.cons_append, List.cons_append, List.cons_lt_cons_iff] at h
      rw [List.cons_lt_cons_iff, List.cons_prefix_cons, List.cons_prefix_cons]
      cases h with
      | inl hxy => exact .inl (.inl hxy)
      | inr h =>
        obtain ⟨rfl, hrest⟩ := h
        rcases ih hrest with hlt | hprefix | hprefix
        · exact .inl (.inr ⟨rfl, hlt⟩)
        · exact .inr (.inl ⟨rfl, hprefix⟩)
        · exact .inr (.inr ⟨rfl, hprefix⟩)

/-- Keys are in the order of their fields with the separator behind them. -/
theorem eq_or_start_lt_of_encode_lt {f g v w : Bytes} (hf : ¬ separatorBytes <:+: f)
    (hv : ¬ separatorBytes <:+: v) (hg : ¬ separatorBytes <:+: g) (hw : ¬ separatorBytes <:+: w)
    (h : encode f v < encode g w) : f = g ∨ start f < start g := by
  rcases lt_or_prefix_of_append_lt h with hlt | hprefix | hprefix
  · exact .inr hlt
  · have hkey : start f <+: encode g w := hprefix.trans ⟨w, rfl⟩
    exact .inl ((inField_encode hg hw).mp (inField_iff.mpr hkey))
  · have hkey : start g <+: encode f v := hprefix.trans ⟨v, rfl⟩
    exact .inl ((inField_encode hf hv).mp (inField_iff.mpr hkey)).symm

theorem lt_of_append_lt {a s t : Bytes} (h : a ++ s < a ++ t) : s < t := by
  rw [← List.not_le]
  intro hle
  exact absurd h (List.not_lt.mpr (List.append_left_le hle))

/-- Keys of a field are in the order of their terms. -/
theorem lt_of_encode_lt {field v w : Bytes} (h : encode field v < encode field w) : v < w :=
  lt_of_append_lt h

/-- No other text begins the separator. -/
theorem eq_nil_of_prefix_separator {zs : List Char} (h : Utf8.encode zs <+: separatorBytes)
    (hzs : Document.separator ∉ zs) : zs = [] := by
  obtain ⟨rest, hrest⟩ := h
  obtain ⟨ws, hws, -⟩ := Utf8.eq_encode_of_append hrest
  cases zs with
  | nil => rfl
  | cons c zs =>
    rw [List.cons_append, List.cons.injEq] at hws
    exact absurd (hws.1 ▸ List.mem_cons_self) hzs

/-- A name that goes on from another one comes after it if it goes on behind the separator. -/
theorem separator_lt_of_start_lt {x z : Bytes} (hx : IsPlain x) (hxz : IsPlain (x ++ z))
    (h : start x < start (x ++ z)) : z = [] ∨ separatorBytes < z := by
  obtain ⟨cs, rfl, -⟩ := hx
  obtain ⟨ds, hds, hplain⟩ := hxz
  obtain ⟨zs, rfl, rfl⟩ := Utf8.eq_encode_of_append hds
  have hzs : Document.separator ∉ zs := fun hmem => hplain (List.mem_append_right _ hmem)
  have hlt : separatorBytes ++ [] < Utf8.encode zs ++ separatorBytes := by
    rw [start, start, List.append_assoc] at h
    rw [List.append_nil]
    exact lt_of_append_lt h
  rcases lt_or_prefix_of_append_lt hlt with hlt | hprefix | hprefix
  · exact .inr hlt
  · exact absurd hprefix.isInfix (not_isInfix_encode hzs)
  · rw [eq_nil_of_prefix_separator hprefix hzs]
    exact .inl rfl

/-- Names of which none goes on from another one before the separator are in the order of keys. -/
theorem lt_of_start_lt {x y : Bytes} (h : start x < start y)
    (hbehind : ∀ z, x = y ++ z → z = [] ∨ separatorBytes < z) : x < y := by
  rcases lt_or_prefix_of_append_lt h with hlt | hprefix | hprefix
  · exact hlt
  · obtain ⟨z, rfl⟩ := hprefix
    cases z with
    | nil =>
      rw [List.append_nil] at h
      exact absurd h (List.lt_irrefl _)
    | cons b z =>
      have hlt : x ++ [] < x ++ b :: z := List.append_left_lt (List.nil_lt_cons b z)
      rwa [List.append_nil] at hlt
  · obtain ⟨z, rfl⟩ := hprefix
    rw [start, start, List.append_assoc] at h
    have hlt := lt_of_append_lt h
    rcases hbehind z rfl with rfl | hafter
    · exact absurd hlt (List.lt_irrefl _)
    · exact absurd (List.lt_trans hlt hafter) (List.not_lt.mpr List.le_append_left)

end InvertedIndex.Segment.Key
