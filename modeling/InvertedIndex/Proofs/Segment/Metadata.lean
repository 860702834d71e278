import InvertedIndex.Proofs.Bytes
import InvertedIndex.Proofs.Utf8
import InvertedIndex.Segment.Metadata

namespace InvertedIndex

namespace Wire

theorem word32?_eq_some_iff {bs rest : Bytes} {x : UInt32} :
    word32? bs = some (x, rest) ↔ bs = word32 x ++ rest := by
  constructor
  · intro h
    obtain ⟨⟨n, after⟩, hword, heq⟩ := Option.map_eq_some_iff.mp h
    obtain ⟨rfl, rfl⟩ := Prod.mk.inj heq
    obtain ⟨hlt, rfl⟩ := Bytes.word?_eq_some_iff.mp hword
    rw [word32, UInt32.toNat_ofNat_of_lt' hlt]
  · rintro rfl
    exact word32?_append x rest

theorem word64?_eq_some_iff {bs rest : Bytes} {x : UInt64} :
    word64? bs = some (x, rest) ↔ bs = word64 x ++ rest := by
  constructor
  · intro h
    obtain ⟨⟨n, after⟩, hword, heq⟩ := Option.map_eq_some_iff.mp h
    obtain ⟨rfl, rfl⟩ := Prod.mk.inj heq
    obtain ⟨hlt, rfl⟩ := Bytes.word?_eq_some_iff.mp hword
    rw [word64, UInt64.toNat_ofNat_of_lt' hlt]
  · rintro rfl
    exact word64?_append x rest

theorem string?_eq_some_iff {bs s rest : Bytes} :
    string? bs = some (s, rest) ↔ s.length < UInt64.size ∧ bs = string s ++ rest := by
  constructor
  · intro h
    rw [string?] at h
    cases hword : bs.word? 8 with
    | none =>
      rw [hword] at h
      cases h
    | some part =>
      rw [hword] at h
      obtain ⟨hlt, rfl⟩ := Bytes.word?_eq_some_iff.mp hword
      obtain ⟨hlength, hrest⟩ := Bytes.split?_eq_some_iff.mp h
      rw [string, length, List.append_assoc, hlength, ← hrest]
      exact ⟨hlt, rfl⟩
  · rintro ⟨hlt, rfl⟩
    exact string?_append hlt rest

end Wire

namespace Segment.Metadata

/-- A word of eight bytes can tell how long the name of the form is. -/
def Addressable (m : Metadata) : Prop := (Bytes.ofText m.postingsFormat).length < UInt64.size

theorem toOption_decode_eq_some_iff {bs : Bytes} {cs : List Char} :
    (Utf8.decode bs).toOption = some cs ↔ bs = Bytes.ofText (.ofList cs) := by
  have htext : Bytes.ofText (.ofList cs) = Utf8.encode cs := by
    rw [Bytes.ofText, String.toList_ofList, Utf8.encode]
  rw [htext, ← Utf8.decode_eq_ok_iff]
  cases Utf8.decode bs <;> simp [Except.toOption]

theorem decode?_encode_append {m : Metadata} (h : m.Addressable) (rest : Bytes) :
    decode? (m.encode ++ rest) = some (m, rest) := by
  obtain ⟨major, minor, postingsFormat, numDocs, docsData, docsIndex, postings, keys⟩ := m
  have hname : (Utf8.decode (Bytes.ofText postingsFormat)).toOption = some postingsFormat.toList := by
    rw [toOption_decode_eq_some_iff, String.ofList_toList]
  simp only [decode?, encode, List.append_assoc, Wire.word32?_append, Wire.word64?_append,
    Wire.string?_append h, hname, Option.bind_eq_bind, Option.bind_some, String.ofList_toList]

/-- Whatever is read was written for some metadata. -/
theorem eq_encode_of_decode? {bs rest : Bytes} {m : Metadata} (h : decode? bs = some (m, rest)) :
    m.Addressable ∧ bs = m.encode ++ rest := by
  simp only [decode?, Option.bind_eq_bind, Option.bind_eq_some_iff, Prod.exists,
    Wire.word32?_eq_some_iff, Wire.word64?_eq_some_iff, Wire.string?_eq_some_iff,
    toOption_decode_eq_some_iff] at h
  obtain ⟨major, _, rfl, minor, _, rfl, _, _, ⟨hlt, rfl⟩, cs, rfl, numDocs, _, rfl, docsData, _, rfl,
    docsIndex, _, rfl, postings, _, rfl, keys, _, rfl, heq⟩ := h
  cases heq
  exact ⟨hlt, by simp only [encode, List.append_assoc]⟩

/-- What is read are the metadata that were written just in front of the rest. -/
theorem decode?_eq_some_iff {bs rest : Bytes} {m : Metadata} :
    decode? bs = some (m, rest) ↔ m.Addressable ∧ bs = m.encode ++ rest := by
  constructor
  · exact eq_encode_of_decode?
  · rintro ⟨h, rfl⟩
    exact decode?_encode_append h rest

/-- What is read is what is written for some metadata, and it stands in front. -/
theorem decode_eq_ok_iff {bs : Bytes} {m : Metadata} :
    decode bs = .ok m ↔ m.Addressable ∧ m.encode <+: bs := by
  have hread : decode bs = .ok m ↔ ∃ rest, decode? bs = some (m, rest) := by
    rw [decode]
    cases decode? bs with
    | none => simp
    | some part => simp [Prod.ext_iff]
  rw [hread]
  constructor
  · rintro ⟨rest, h⟩
    obtain ⟨haddressable, rfl⟩ := decode?_eq_some_iff.mp h
    exact ⟨haddressable, rest, rfl⟩
  · rintro ⟨haddressable, rest, rfl⟩
    exact ⟨rest, decode?_encode_append haddressable rest⟩

theorem decode_encode {m : Metadata} (h : m.Addressable) : decode m.encode = .ok m :=
  decode_eq_ok_iff.mpr ⟨h, List.prefix_rfl⟩

theorem decode_or_refuse (bs : Bytes) :
    (∃ m, decode bs = .ok m) ∨ decode bs = .error (.format "invalid segment metadata") := by
  rw [decode]
  cases decode? bs with
  | none => exact .inr rfl
  | some part => exact .inl ⟨part.1, rfl⟩

/-- No metadata stand at the front of bytes that go on with other metadata. -/
theorem eq_of_prefix {m n : Metadata} (hm : m.Addressable) (hn : n.Addressable)
    (h : m.encode <+: n.encode) : m = n := by
  have hread := decode_eq_ok_iff.mpr ⟨hm, h⟩
  rw [decode_encode hn] at hread
  exact (Except.ok.inj hread).symm

/-- Metadata are read back from their bytes, whatever follows, and no two have the same bytes. If the end of
the bytes is missing, they are refused. From any bytes metadata are read only if the bytes that are written
for them stand in front, whatever length stands there for the name, and all else is refused. -/
theorem metadata_delimits_itself :
    (∀ (m : Metadata) (back : Bytes), m.Addressable →
      decode (m.encode ++ back) = .ok m ∧
      (∀ n : Metadata, n.Addressable → n.encode = m.encode → n = m) ∧
      ∀ part : Bytes, part <+: m.encode → part ≠ m.encode →
        decode part = .error (.format "invalid segment metadata")) ∧
    ∀ bs : Bytes, (∀ m, decode bs = .ok m → m.Addressable ∧ m.encode <+: bs) ∧
      ((∃ m, decode bs = .ok m) ∨ decode bs = .error (.format "invalid segment metadata")) := by
  refine ⟨fun m back h => ⟨?_, fun n hn heq => ?_, fun part hpart hne => ?_⟩,
    fun bs => ⟨fun m hm => decode_eq_ok_iff.mp hm, decode_or_refuse bs⟩⟩
  · exact decode_eq_ok_iff.mpr ⟨h, List.prefix_append _ back⟩
  · exact eq_of_prefix hn h (heq ▸ List.prefix_rfl)
  · refine (decode_or_refuse part).resolve_left ?_
    rintro ⟨n, hn⟩
    obtain ⟨haddressable, hfront⟩ := decode_eq_ok_iff.mp hn
    obtain rfl := eq_of_prefix haddressable h (hfront.trans hpart)
    exact hne (hpart.eq_of_length_le hfront.length_le)

/-- Other versions and a name that is not ASCII; without the last byte, and with a length that is the largest
one a word can tell, there is nothing to be read. -/
theorem metadata_delimits_itself_accented :
    ∃ m : Metadata, m = ⟨7, 0xFFFFFFFF, "é", 0x8000000000000000, ⟨1, 2, 3, 4⟩⟩ ∧
      decode (m.encode ++ [0xFF]) = .ok m ∧
      decode m.encode.dropLast = .error (.format "invalid segment metadata") ∧
      (∀ n : Metadata, n.Addressable → n.encode = m.encode → n = m) ∧
      decode (List.replicate 60 0xFF) = .error (.format "invalid segment metadata") := by
  obtain ⟨hwritten, hbytes⟩ := metadata_delimits_itself
  obtain ⟨m, hm⟩ : ∃ m : Metadata, m = ⟨7, 0xFFFFFFFF, "é", 0x8000000000000000, ⟨1, 2, 3, 4⟩⟩ := ⟨_, rfl⟩
  have haddressable : m.Addressable := by
    rw [hm, Addressable]
    decide
  have hne : m.encode.dropLast ≠ m.encode := by
    rw [hm]
    decide +kernel
  obtain ⟨hread, hinjective, hpart⟩ := hwritten m [0xFF] haddressable
  refine ⟨m, hm, hread, hpart _ (List.dropLast_prefix _) hne, hinjective, ?_⟩
  refine (hbytes (List.replicate 60 0xFF)).2.resolve_left ?_
  rintro ⟨n, hn⟩
  cases hn

end Segment.Metadata

end InvertedIndex
