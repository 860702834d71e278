import InvertedIndex.Proofs.Postings.Histories
import InvertedIndex.Proofs.Postings.Truncations

namespace InvertedIndex.Postings

namespace Portable

/-- The upper halves of the numbers of a set, ascending. -/
def keys (s : Finset PostingsId) : List Nat :=
  (List.range 0x10000).filter fun key => ∃ id ∈ s, id.high = key

/-- The lower halves of the numbers with one upper half, ascending. -/
def lows (s : Finset PostingsId) (key : Nat) : List Nat :=
  (List.range 0x10000).filter fun low => join key low ∈ s

/-- Eight numbers from `8 * i` on, from the lowest bit to the highest one. -/
def bitmapByte (lows : List Nat) (i : Nat) : UInt8 :=
  .ofNat (Nat.ofBits fun j : Fin 8 => decide (8 * i + j ∈ lows))

/-- Up to 4096 numbers are words of two bytes, more of them are bits. -/
def container (lows : List Nat) : Bytes :=
  if lows.length ≤ 4096 then lows.flatMap (Bytes.ofLE 2)
  else (List.range 8192).map (bitmapByte lows)

/-- The cookie, how many containers there are, the key of each and its number of members less one,
where each starts, and the containers. -/
def bytes (s : Finset PostingsId) : Bytes :=
  let parts := (keys s).map fun key => (key, lows s key)
  let containers := parts.map fun part => container part.2
  Bytes.ofLE 4 12346 ++ Bytes.ofLE 4 parts.length
    ++ parts.flatMap (fun part => Bytes.ofLE 2 part.1 ++ Bytes.ofLE 2 (part.2.length - 1))
    ++ (List.range parts.length).flatMap (fun i =>
        Bytes.ofLE 4 (8 + 8 * parts.length + (containers.take i).flatten.length))
    ++ containers.flatten

end Portable

theorem Block.bitmapByte_eq {i : Nat} {here lows : List Nat}
    (hhere : ∀ x ∈ here, 8 * i ≤ x ∧ x < 8 * i + 8)
    (hmem : ∀ x, 8 * i ≤ x → x < 8 * i + 8 → (x ∈ here ↔ x ∈ lows)) :
    bitmapByte (8 * i) here = Portable.bitmapByte lows i := by
  apply UInt8.toNat_inj.mp
  apply Nat.eq_of_testBit_eq
  intro j
  have hofBits := Nat.ofBits_lt_two_pow fun j : Fin 8 => decide (8 * i + j ∈ lows)
  rw [Portable.bitmapByte, UInt8.toNat_ofNat', Nat.mod_eq_of_lt hofBits]
  rcases Nat.lt_or_ge j 8 with hj | hj
  · rw [bitmapByte, testBit_foldl hj hhere, Nat.testBit_ofBits_lt _ j hj]
    simp [hmem (8 * i + j) (by omega) (by omega)]
  · have hbyte : (bitmapByte (8 * i) here).toNat < 2 ^ j :=
      Nat.lt_of_lt_of_le (UInt8.toNat_lt _) (Nat.pow_le_pow_right (by decide) hj)
    rw [Nat.testBit_lt_two_pow hbyte, Nat.testBit_ofBits_ge _ j hj]

theorem Block.bitmapFrom_eq (n : Nat) {i : Nat} {rest lows : List Nat} (hrest : rest.Pairwise (· < ·))
    (hle : ∀ x ∈ rest, 8 * i ≤ x) (hmem : ∀ x, 8 * i ≤ x → (x ∈ rest ↔ x ∈ lows)) :
    bitmapFrom n (8 * i) rest = (List.range' i n).map (Portable.bitmapByte lows) := by
  induction n generalizing i rest with
  | zero => rfl
  | succ n ih =>
    have hsplit (x : Nat) : x ∈ rest ↔ x ∈ rest.takeWhile (fun x => decide (x < 8 * i + 8)) ∨
        x ∈ rest.dropWhile fun x => decide (x < 8 * i + 8) := by
      rw [← List.mem_append, List.takeWhile_append_dropWhile]
    have hhere : ∀ x ∈ rest.takeWhile fun x => decide (x < 8 * i + 8), 8 * i ≤ x ∧ x < 8 * i + 8 := by
      intro x hx
      have hlt := List.mem_takeWhile_imp hx
      exact ⟨hle x ((hsplit x).mpr (.inl hx)), of_decide_eq_true hlt⟩
    have hbehind : ∀ x ∈ rest.dropWhile fun x => decide (x < 8 * i + 8), 8 * i + 8 ≤ x :=
      fun x hx => le_of_mem_dropWhile hrest hx
    rw [bitmapFrom, List.span_eq_takeWhile_dropWhile, List.range'_succ, List.map_cons]
    dsimp only
    congr 1
    · apply bitmapByte_eq hhere
      intro x hx hlt
      rw [← hmem x hx, hsplit]
      refine (or_iff_left fun hdrop => ?_).symm
      exact Nat.not_le_of_lt hlt (hbehind x hdrop)
    · have hnext : 8 * i + 8 = 8 * (i + 1) := by omega
      rw [hnext] at hsplit hhere hbehind ⊢
      apply ih (hrest.sublist (List.dropWhile_sublist _)) hbehind
      intro x hx
      rw [← hmem x (by omega), hsplit]
      refine (or_iff_right fun htake => ?_).symm
      have hlt := (hhere x htake).2
      omega

/-- A canonical block is written as the container of its members. -/
theorem Block.body_eq {b : Block} (h : b.Canonical) : b.body = Portable.container b.lows.toList := by
  rw [body, h.form, Portable.container, Lows.length_toList]
  by_cases hsize : b.lows.size ≤ 4096
  · have hform : Form.ofSize b.size = .array := if_pos hsize
    rw [hform, if_pos hsize]
    rfl
  · have hform : Form.ofSize b.size = .bitmap := if_neg hsize
    have hbits : bitmapFrom bitmapSize (8 * 0) b.lows.toList =
        (List.range' 0 bitmapSize).map (Portable.bitmapByte b.lows.toList) :=
      bitmapFrom_eq bitmapSize b.lows.ascending_toList (fun x _ => Nat.zero_le x) fun x _ => Iff.rfl
    rw [hform, if_neg hsize, List.range_eq_range']
    dsimp only
    rw [bitmap, hbits, bitmapSize]

/-- A block is announced by its key and the number of its members less one. -/
theorem descriptor_eq {b : Block} (h : b.Canonical) :
    descriptor b = Bytes.ofLE 2 b.key ++ Bytes.ofLE 2 (b.lows.toList.length - 1) := by
  have hpos : 0 < b.lows.size := h.size_pos
  have hlimit : Bytes.limit 2 = 0x10000 := rfl
  have hmod : (b.lows.size + 0xFFFF) % Bytes.limit 2 = (b.lows.size - 1) % Bytes.limit 2 := by
    rw [hlimit]
    omega
  have hless : Bytes.ofLE 2 (b.lows.size + 0xFFFF) = Bytes.ofLE 2 (b.lows.size - 1) := by
    apply Bytes.toLE_injective (by rw [Bytes.length_ofLE, Bytes.length_ofLE])
    rw [Bytes.toLE_ofLE, Bytes.toLE_ofLE, hmod]
  rw [descriptor, Lows.length_toList, Block.size, hless]

theorem starts_eq (first : Nat) (sizes : List Nat) :
    starts first sizes = (List.range sizes.length).map fun i => first + (sizes.take i).sum := by
  induction sizes generalizing first with
  | nil => rfl
  | cons size sizes ih =>
    rw [starts, ih, List.length_cons, List.range_succ_eq_map, List.map_cons, List.map_map]
    simp [Function.comp_def, Nat.add_assoc]

variable {p : Postings} {s : Finset PostingsId}

theorem ascending_filter_range (n : Nat) (test : Nat → Bool) :
    ((List.range n).filter test).Pairwise (· < ·) := List.pairwise_lt_range.filter test

theorem Represents.keys_eq (h : p.Represents s) : p.keys = Portable.keys s := by
  apply List.Pairwise.eq_of_mem_iff h.canonical.proper.ordered (ascending_filter_range _ _)
  intro key
  rw [List.mem_filter, List.mem_range, decide_eq_true_iff]
  constructor
  · intro hkey
    obtain ⟨b, hb, rfl⟩ := List.mem_map.mp hkey
    have hlt := h.canonical.proper.keyed b hb
    obtain ⟨x, hx⟩ := Lows.exists_contains (h.canonical.blocks b hb).size_pos
    have hlow := Lows.lt_limit_of_contains hx
    refine ⟨hlt, join b.key x, ?_, ((join_eq_iff hlt hlow).mp rfl).1.symm⟩
    rw [h.mem_iff, contains_join hlt hlow, find?_of_mem h.canonical.proper.ordered hb]
    exact hx
  · rintro ⟨-, id, hid, rfl⟩
    rw [h.mem_iff, contains] at hid
    cases hb : p.find? id.high with
    | none =>
      rw [hb] at hid
      cases hid
    | some b =>
      rw [← key_of_find? h.canonical.proper.ordered hb]
      rw [find?_eq h.canonical.proper.ordered] at hb
      exact List.mem_map_of_mem (List.mem_of_find?_eq_some hb)

theorem Represents.lows_eq (h : p.Represents s) {b : Block} (hb : b ∈ p.blocks) :
    b.lows.toList = Portable.lows s b.key := by
  apply Lows.toList_eq (ascending_filter_range _ _)
  intro x
  have hkey := h.canonical.proper.keyed b hb
  rw [List.mem_filter, List.mem_range, decide_eq_true_iff, h.mem_iff]
  constructor
  · rintro ⟨hx, hmem⟩
    rwa [contains_join hkey hx, find?_of_mem h.canonical.proper.ordered hb] at hmem
  · intro hx
    have hlow := Lows.lt_limit_of_contains hx
    refine ⟨hlow, ?_⟩
    rwa [contains_join hkey hlow, find?_of_mem h.canonical.proper.ordered hb]

/-- What a list is written as depends on its members alone. -/
theorem Represents.encode_eq (h : p.Represents s) : p.encode = Portable.bytes s := by
  have hparts : ((Portable.keys s).map fun key => (key, Portable.lows s key)) =
      p.blocks.map fun b => (b.key, b.lows.toList) := by
    rw [← h.keys_eq, keys, List.map_map]
    apply List.map_congr_left
    intro b hb
    rw [h.lows_eq hb]
    rfl
  have hcontainers : (p.blocks.map fun b => Portable.container b.lows.toList) =
      p.blocks.map Block.body :=
    List.map_congr_left fun b hb => (Block.body_eq (h.canonical.blocks b hb)).symm
  have hdescriptors : p.blocks.flatMap (fun b =>
      Bytes.ofLE 2 b.key ++ Bytes.ofLE 2 (b.lows.toList.length - 1)) = p.blocks.flatMap descriptor :=
    List.flatMap_congr fun b hb => (descriptor_eq (h.canonical.blocks b hb)).symm
  have hstarts (i : Nat) : ((p.blocks.map Block.body).take i).flatten.length =
      ((p.blocks.map Block.bodySize).take i).sum := by
    rw [← List.map_take, ← List.map_take, ← List.flatMap_def, length_bodies]
  rw [Portable.bytes, hparts]
  simp only [List.map_map, List.length_map, List.flatMap_map, Function.comp_def, hcontainers,
    hdescriptors, hstarts]
  rw [encode, starts_eq, List.flatMap_map, List.length_map, ← List.flatMap_def, plainCookie]

/-- What the lists of any two histories are written as: it has the length that it is said to have, it
is the portable format of the set, so that lists with the same members are written alike, it is read
back whatever follows, and what misses bytes at the end is refused. -/
theorem lists_are_portable (steps others : List (Nat × Action)) (i j : Nat) :
    let p := (lists steps).1 i
    let q := (lists others).1 j
    p.encode.length = p.encodedSize ∧
      p.encode = Portable.bytes ((sets steps).1 i) ∧
      ((∀ id, p.contains id = q.contains id) ↔ p.encode = q.encode) ∧
      (∀ more, decode (p.encode ++ more) = .ok p) ∧
      ∀ n < p.encode.length, ∃ reason, decode (p.encode.take n) = .error (.format reason) := by
  intro p q
  have hp : p.Represents ((sets steps).1 i) := represents_lists steps i
  have hq : q.Represents ((sets others).1 j) := represents_lists others j
  refine ⟨length_encode p, hp.encode_eq, ⟨fun hsame => ?_, fun hencode id => ?_⟩,
    decode_append hp.canonical, fun n hn => ⟨_, decode_take hp.canonical hn⟩⟩
  · rw [hp.canonical.eq_of_contains hq.canonical hsame]
  · have hread := decode_encode hp.canonical
    rw [hencode, decode_encode hq.canonical] at hread
    rw [Except.ok.inj hread]

end InvertedIndex.Postings
