import InvertedIndex.Postings.Format
import InvertedIndex.Proofs.Bytes
import InvertedIndex.Proofs.Postings.Members
import Mathlib.Algebra.Order.Ring.Nat
import Mathlib.Data.List.TakeDrop
import Mathlib.Data.List.TakeWhile

namespace InvertedIndex

namespace Boundaries

theorem length_members {bs : List Nat} : (members bs).length = count bs := by
  fun_induction runs bs with
  | case1 lo hi rest ih => rw [members_cons_cons, List.length_append, ih, List.length_range', count]
  | case2 bs hne =>
    cases bs with
    | nil => rfl
    | cons lo bs =>
      cases bs with
      | nil => rfl
      | cons hi rest => exact absurd rfl (hne lo hi rest)

end Boundaries

namespace Postings

theorem Lows.length_toList (s : Lows) : s.toList.length = s.size := Boundaries.length_members

theorem Lows.size_pos_of_contains {s : Lows} {x : Nat} (h : s.contains x = true) : 0 < s.size := by
  rw [← length_toList]
  exact List.length_pos_of_mem (mem_toList.mpr h)

theorem Lows.toList_lt {s : Lows} : ∀ x ∈ s.toList, x < 0x10000 :=
  fun _ hx => lt_limit_of_contains (mem_toList.mp hx)

theorem Lows.size_le (s : Lows) : s.size ≤ 0x10000 := by
  have hsub : s.toList.Subperm (List.range 0x10000) := by
    apply List.subperm_of_subset
    · exact s.ascending_toList.imp fun hlt => Nat.ne_of_lt hlt
    · intro x hx
      exact List.mem_range.mpr (toList_lt x hx)
  have hle := hsub.length_le
  rwa [length_toList, List.length_range] at hle

/-- A set is made again of the list of its members. -/
theorem Lows.ofList_toList (s : Lows) : Lows.ofList s.toList = s := by
  apply ext_contains
  intro x
  rw [contains_ofList, Bool.eq_iff_iff, Bool.and_eq_true, List.contains_iff_mem, mem_toList,
    decide_eq_true_iff]
  exact and_iff_left_of_imp lt_limit_of_contains

namespace Block

theorem isAscending_of_pairwise {xs : List Nat} (h : xs.Pairwise (· < ·)) :
    isAscending xs = true := by
  induction xs with
  | nil => rfl
  | cons x xs ih =>
    obtain ⟨hx, hxs⟩ := List.pairwise_cons.mp h
    cases xs with
    | nil => rfl
    | cons y rest =>
      rw [isAscending, Bool.and_eq_true, decide_eq_true_iff]
      exact ⟨hx y (by simp), ih hxs⟩

theorem readArray?_array (key : Nat) (s : Lows) (rest : Bytes) :
    readArray? key s.size (array s.toList ++ rest) = some (⟨key, .array, s⟩, rest) := by
  have hwords := Bytes.words?_flatMap 2 s.toList rest
  have hmod : s.toList.map (· % Bytes.limit 2) = s.toList := by
    rw [List.map_congr_left (g := id), List.map_id]
    intro x hx
    exact Nat.mod_eq_of_lt (Lows.toList_lt x hx)
  rw [hmod, Lows.length_toList] at hwords
  rw [readArray?, array, hwords]
  dsimp only
  rw [if_pos (isAscending_of_pairwise s.ascending_toList), Lows.ofList_toList]

theorem testBit_one_shiftLeft : ∀ m < 8, ∀ j < 8,
    ((1 : UInt8) <<< UInt8.ofNat m).toNat.testBit j = decide (m = j) := by
  decide

theorem testBit_foldl {start j : Nat} (hj : j < 8) {lows : List Nat}
    (h : ∀ x ∈ lows, start ≤ x ∧ x < start + 8) (b : UInt8) :
    (lows.foldl (fun b low => b ||| (1 <<< UInt8.ofNat (low - start))) b).toNat.testBit j =
      (b.toNat.testBit j || lows.contains (start + j)) := by
  induction lows generalizing b with
  | nil => simp
  | cons x lows ih =>
    obtain ⟨hle, hlt⟩ := h x (by simp)
    have hbit := testBit_one_shiftLeft (x - start) (by omega) j hj
    have hplace : decide (x - start = j) = (start + j == x) := by
      rw [Bool.eq_iff_iff, decide_eq_true_iff, beq_iff_eq]
      omega
    rw [List.foldl_cons, ih fun y hy => h y (by simp [hy]), UInt8.toNat_or, Nat.testBit_or, hbit,
      hplace, List.contains_cons, Bool.or_assoc]

theorem mem_byteMembers {b : UInt8} {i x : Nat} :
    x ∈ byteMembers b i ↔ ∃ j < 8, b.toNat.testBit j = true ∧ x = 8 * i + j := by
  rw [byteMembers, List.mem_filterMap]
  constructor
  · intro h
    obtain ⟨j, hj, hx⟩ := h
    split at hx
    · next hbit => exact ⟨j, List.mem_range.mp hj, hbit, (Option.some.inj hx).symm⟩
    · cases hx
  · intro h
    obtain ⟨j, hj, hbit, hx⟩ := h
    exact ⟨j, List.mem_range.mpr hj, by rw [if_pos hbit, hx]⟩

theorem ascending_byteMembers (b : UInt8) (i : Nat) : (byteMembers b i).Pairwise (· < ·) := by
  rw [byteMembers, List.pairwise_filterMap]
  refine List.pairwise_lt_range.imp ?_
  intro j k hjk x hx y hy
  split at hx
  · split at hy
    · rw [← Option.some.inj hx, ← Option.some.inj hy]
      omega
    · cases hy
  · cases hx

/-- The members of a byte are those of which it was made. -/
theorem byteMembers_bitmapByte {i : Nat} {lows : List Nat} (hlows : lows.Pairwise (· < ·))
    (h : ∀ x ∈ lows, 8 * i ≤ x ∧ x < 8 * i + 8) : byteMembers (bitmapByte (8 * i) lows) i = lows := by
  apply (ascending_byteMembers _ i).eq_of_mem_iff hlows
  intro x
  rw [mem_byteMembers]
  constructor
  · intro hx
    obtain ⟨j, hj, hbit, rfl⟩ := hx
    rw [bitmapByte, testBit_foldl hj h] at hbit
    simpa using hbit
  · intro hx
    obtain ⟨hle, hlt⟩ := h x hx
    have hplace : 8 * i + (x - 8 * i) = x := by omega
    refine ⟨x - 8 * i, by omega, ?_, hplace.symm⟩
    rw [bitmapByte, testBit_foldl (by omega) h, hplace]
    simp [hx]

theorem le_of_mem_dropWhile {m : Nat} {xs : List Nat} (h : xs.Pairwise (· < ·)) {x : Nat}
    (hx : x ∈ xs.dropWhile fun y => decide (y < m)) : m ≤ x := by
  induction xs with
  | nil => cases hx
  | cons y ys ih =>
    obtain ⟨hy, hys⟩ := List.pairwise_cons.mp h
    rw [List.dropWhile_cons] at hx
    split at hx
    · exact ih hys hx
    · next hm =>
      have hle : m ≤ y := Nat.le_of_not_lt fun hlt => hm (decide_eq_true hlt)
      cases List.mem_cons.mp hx with
      | inl hx => rwa [hx]
      | inr hx => exact Nat.le_trans hle (Nat.le_of_lt (hy x hx))

/-- The bytes from place `i` on have the members from `8 * i` on. -/
theorem flatMap_byteMembers_bitmapFrom (n : Nat) {i : Nat} {lows : List Nat}
    (hlows : lows.Pairwise (· < ·)) (h : ∀ x ∈ lows, 8 * i ≤ x ∧ x < 8 * (i + n)) :
    ((bitmapFrom n (8 * i) lows).zipIdx i).flatMap (fun (b, i) => byteMembers b i) = lows := by
  induction n generalizing i lows with
  | zero =>
    cases lows with
    | nil => rfl
    | cons x lows =>
      have hx := h x (by simp)
      omega
  | succ n ih =>
    have hsplit := List.takeWhile_append_dropWhile (p := fun x => decide (x < 8 * i + 8)) (l := lows)
    have hparts := hlows
    rw [← hsplit, List.pairwise_append] at hparts
    obtain ⟨hhere, hrest, hcross⟩ := hparts
    have hin : ∀ x ∈ lows.takeWhile fun x => decide (x < 8 * i + 8), 8 * i ≤ x ∧ x < 8 * i + 8 := by
      intro x hx
      have hlt := List.mem_takeWhile_imp hx
      exact ⟨(h x ((List.takeWhile_sublist _).subset hx)).1, of_decide_eq_true hlt⟩
    have hbehind : ∀ x ∈ lows.dropWhile fun x => decide (x < 8 * i + 8),
        8 * (i + 1) ≤ x ∧ x < 8 * (i + 1 + n) := by
      intro x hx
      have hle := le_of_mem_dropWhile hlows hx
      have hlt := (h x ((List.dropWhile_sublist _).subset hx)).2
      omega
    rw [bitmapFrom, List.span_eq_takeWhile_dropWhile]
    dsimp only
    have hnext : 8 * i + 8 = 8 * (i + 1) := by omega
    rw [List.zipIdx_cons, List.flatMap_cons, byteMembers_bitmapByte hhere hin]
    rw [hnext] at hsplit hrest hbehind ⊢
    rw [ih hrest hbehind, hsplit]

theorem length_bitmapFrom (n start : Nat) (lows : List Nat) :
    (bitmapFrom n start lows).length = n := by
  induction n generalizing start lows with
  | zero => rfl
  | succ n ih =>
    rw [bitmapFrom, List.span_eq_takeWhile_dropWhile]
    exact congrArg (· + 1) (ih _ _)

theorem bitmapMembers_bitmapFrom {n : Nat} {lows : List Nat} (hlows : lows.Pairwise (· < ·))
    (h : ∀ x ∈ lows, x < 8 * n) : bitmapMembers (bitmapFrom n 0 lows) = lows := by
  have hbounds : ∀ x ∈ lows, 8 * 0 ≤ x ∧ x < 8 * (0 + n) := by
    intro x hx
    have hlt := h x hx
    omega
  exact flatMap_byteMembers_bitmapFrom n hlows hbounds

theorem readBitmap?_bitmap (key : Nat) (s : Lows) (rest : Bytes) :
    readBitmap? key s.size (bitmap s.toList ++ rest) = some (⟨key, .bitmap, s⟩, rest) := by
  have hlength : (bitmap s.toList).length = bitmapSize := length_bitmapFrom bitmapSize 0 s.toList
  have hmembers : bitmapMembers (bitmap s.toList) = s.toList :=
    bitmapMembers_bitmapFrom s.ascending_toList s.toList_lt
  rw [readBitmap?, Bytes.split?_of_length hlength]
  simp only [hmembers, Lows.length_toList, if_true, Lows.ofList_toList]

/-- Members, and the form that their number asks for. -/
structure Canonical (b : Block) : Prop where
  form : b.form = .ofSize b.size
  size_pos : 0 < b.size

/-- A block is read back if it has the form that its size asks for. -/
theorem read?_body {b : Block} (h : b.Canonical) (rest : Bytes) :
    read? false b.key b.size (b.body ++ rest) = some (b, rest) := by
  obtain ⟨key, form, lows⟩ := b
  have hform : form = .ofSize lows.size := h.form
  rw [read?, body]
  simp only [Bool.false_eq_true, if_false, size]
  subst hform
  cases hsize : Form.ofSize lows.size with
  | array => exact readArray?_array key lows rest
  | bitmap => exact readBitmap?_bitmap key lows rest

theorem size_le (b : Block) : b.size ≤ 0x10000 := b.lows.size_le

theorem canonical_ofLows (key : Nat) {lows : Lows} {x : Nat} (h : lows.contains x = true) :
    (ofLows key lows).Canonical where
  form := rfl
  size_pos := Lows.size_pos_of_contains h

end Block

/-- Postings that are written so that they can be read. -/
structure Canonical (p : Postings) : Prop where
  proper : p.Proper
  blocks : ∀ b ∈ p.blocks, b.Canonical

theorem readBlocks?_flatMap {bs : List Block} (hkey : ∀ b ∈ bs, b.key < 0x10000)
    (h : ∀ b ∈ bs, b.Canonical) (rest : Bytes) :
    readBlocks? (bs.flatMap fun b => [b.key % 0x10000, (b.size + 0xFFFF) % 0x10000]) []
      (bs.flatMap Block.body ++ rest) = some (bs, rest) := by
  induction bs with
  | nil => rfl
  | cons b bs ih =>
    have hb := h b (by simp)
    have hpos := hb.size_pos
    have hle := b.size_le
    have hkeymod : b.key % 0x10000 = b.key := Nat.mod_eq_of_lt (hkey b (by simp))
    have hless : (b.size + 0xFFFF) % 0x10000 + 1 = b.size := by omega
    have hrest := ih (fun c hc => hkey c (by simp [hc])) fun c hc => h c (by simp [hc])
    rw [List.flatMap_cons, List.flatMap_cons, List.cons_append, List.cons_append, List.nil_append,
      readBlocks?, hkeymod, hless, List.append_assoc, List.headD_nil, Block.read?_body hb]
    dsimp only
    rw [List.tail_nil, hrest]
    rfl

theorem length_starts (first : Nat) (sizes : List Nat) :
    (starts first sizes).length = sizes.length := by
  induction sizes generalizing first with
  | nil => rfl
  | cons size sizes ih => rw [starts, List.length_cons, ih, List.length_cons]

/-- Keys that ascend below `2 ^ 16` are no more than that. -/
theorem length_blocks_le {p : Postings} (h : p.Proper) : p.blocks.length ≤ 0x10000 := by
  have hsub : p.keys.Subperm (List.range 0x10000) := by
    apply List.subperm_of_subset
    · exact h.ordered.imp fun hlt => Nat.ne_of_lt hlt
    · intro k hk
      obtain ⟨b, hb, rfl⟩ := List.mem_map.mp hk
      exact List.mem_range.mpr (h.keyed b hb)
  have hle := hsub.length_le
  rwa [keys, List.length_map, List.length_range] at hle

theorem words?_descriptors (bs : List Block) (rest : Bytes) :
    Bytes.words? 2 (2 * bs.length) (bs.flatMap descriptor ++ rest) =
      some (bs.flatMap fun b => [b.key % 0x10000, (b.size + 0xFFFF) % 0x10000], rest) := by
  have hwords := Bytes.words?_flatMap 2 (bs.flatMap fun b => [b.key, b.size + 0xFFFF]) rest
  have hcount : (bs.flatMap fun b => [b.key, b.size + 0xFFFF]).length = 2 * bs.length := by
    rw [List.length_flatMap]
    simp [Nat.mul_comm]
  have hbytes : (bs.flatMap fun b => [b.key, b.size + 0xFFFF]).flatMap (Bytes.ofLE 2) =
      bs.flatMap descriptor := by
    rw [List.flatMap_assoc]
    apply List.flatMap_congr
    intro b _
    simp [descriptor]
  rw [hcount, hbytes, List.map_flatMap] at hwords
  exact hwords

/-- Canonical postings are read back, whatever follows them. -/
theorem decode?_encode {p : Postings} (h : p.Canonical) (rest : Bytes) :
    decode? (p.encode ++ rest) = some (p, rest) := by
  have hlength := length_blocks_le h.proper
  have hcookie (tail : Bytes) : Bytes.word? 4 (Bytes.ofLE 4 plainCookie ++ tail) =
      some (plainCookie, tail) := Bytes.word?_ofLE_append (by decide) tail
  have hsize (tail : Bytes) : Bytes.word? 4 (Bytes.ofLE 4 p.blocks.length ++ tail) =
      some (p.blocks.length, tail) :=
    Bytes.word?_ofLE_append (Nat.lt_of_le_of_lt hlength (by decide)) tail
  have hstarts (tail : Bytes) : Bytes.split? (4 * p.blocks.length)
      ((starts (8 + 8 * p.blocks.length) (p.blocks.map Block.bodySize)).flatMap (Bytes.ofLE 4)
        ++ tail) = some ((starts (8 + 8 * p.blocks.length)
          (p.blocks.map Block.bodySize)).flatMap (Bytes.ofLE 4), tail) := by
    apply Bytes.split?_of_length
    rw [Bytes.length_flatMap_of_length (Bytes.length_ofLE 4), length_starts, List.length_map]
  have hblocks := readBlocks?_flatMap h.proper.keyed h.blocks rest
  have hmax : ¬ maxBlocks < p.blocks.length := Nat.not_lt_of_le hlength
  rw [decode?, encode, header?]
  simp [hcookie, hsize, hmax, words?_descriptors, hstarts, hblocks]

theorem decode_encode {p : Postings} (h : p.Canonical) : decode p.encode = .ok p := by
  have hread := decode?_encode h []
  rw [List.append_nil] at hread
  rw [decode, hread]

theorem Block.length_body (b : Block) : b.body.length = b.bodySize := by
  rw [body, bodySize]
  cases b.form with
  | array =>
    have hwords := Bytes.length_flatMap_of_length (Bytes.length_ofLE 2) b.lows.toList
    rwa [Lows.length_toList] at hwords
  | bitmap => exact length_bitmapFrom bitmapSize 0 b.lows.toList

theorem length_bodies (bs : List Block) :
    (bs.flatMap Block.body).length = (bs.map Block.bodySize).sum := by
  rw [List.length_flatMap]
  simp only [Block.length_body]

theorem encodedSize_eq (p : Postings) :
    p.encodedSize = 8 + 8 * p.blocks.length + (p.blocks.map Block.bodySize).sum := by
  rw [encodedSize]
  induction p.blocks with
  | nil => rfl
  | cons b bs ih =>
    rw [List.foldr_cons, ih, List.length_cons, List.map_cons, List.sum_cons]
    omega

/-- The size that is told is the size that is written. -/
theorem length_encode (p : Postings) : p.encode.length = p.encodedSize := by
  have hdescriptor (b : Block) : (descriptor b).length = 4 := by simp [descriptor]
  have hdescriptors := Bytes.length_flatMap_of_length hdescriptor p.blocks
  have hstarts := Bytes.length_flatMap_of_length (Bytes.length_ofLE 4)
    (starts (8 + 8 * p.blocks.length) (p.blocks.map Block.bodySize))
  rw [length_starts, List.length_map] at hstarts
  rw [encode, encodedSize_eq]
  simp only [List.length_append, Bytes.length_ofLE, hdescriptors, hstarts, length_bodies]
  omega

/-- No block takes more than a bitmap. -/
theorem Block.bodySize_le {b : Block} (h : b.Canonical) : b.bodySize ≤ bitmapSize := by
  have hlimit : 2 * Form.arrayLimit = bitmapSize := rfl
  rw [bodySize, h.form, Form.ofSize]
  by_cases hsize : b.size ≤ Form.arrayLimit
  · rw [if_pos hsize]
    dsimp only
    omega
  · rw [if_neg hsize]

/-- The size of what is written fits a word of eight bytes. -/
theorem length_encode_lt {p : Postings} (h : p.Canonical) : p.encode.length < UInt64.size := by
  have hblocks := length_blocks_le h.proper
  have hbodies (bs : List Block) (hbs : ∀ b ∈ bs, b.Canonical) :
      (bs.map Block.bodySize).sum ≤ bs.length * Block.bitmapSize := by
    induction bs with
    | nil => exact Nat.le_refl _
    | cons b bs ih =>
      have hb := Block.bodySize_le (hbs b (by simp))
      have hrest := ih fun c hc => hbs c (by simp [hc])
      rw [List.map_cons, List.sum_cons, List.length_cons, Nat.succ_mul]
      omega
  have hsum := hbodies p.blocks h.blocks
  have hbitmap : Block.bitmapSize = 8192 := rfl
  have hword : UInt64.size = 18446744073709551616 := rfl
  rw [hbitmap] at hsum
  rw [length_encode, encodedSize_eq]
  omega

theorem canonical_empty : (∅ : Postings).Canonical where
  proper := proper_empty
  blocks := fun _ hb => absurd hb List.not_mem_nil

theorem Canonical.of_find? {p : Postings} (h : p.Canonical) {key : Nat} {b : Block}
    (hb : p.find? key = some b) : b.Canonical := by
  rw [find?_eq h.proper.ordered] at hb
  exact h.blocks b (List.mem_of_find?_eq_some hb)

/-- The block that is changed need not have been written so that it could be read. -/
theorem canonical_alter {p : Postings} (h : p.Proper) {key : Nat} (hkey : key < 0x10000)
    (hothers : ∀ b ∈ p.blocks, b.key ≠ key → b.Canonical) {f : Option Block → Option Block}
    (hf : ∀ b, f (p.find? key) = some b → b.key = key ∧ b.Canonical) : (p.alter key f).Canonical := by
  refine ⟨proper_alter h hkey fun b hb => (hf b hb).1, ?_⟩
  intro b hb
  rw [alter_eq h.ordered] at hb
  simp only [List.mem_append, List.mem_filter, Option.mem_toList, decide_eq_true_iff] at hb
  obtain (⟨hb, hlt⟩ | hb) | ⟨hb, hgt⟩ := hb
  · exact hothers b hb (Nat.ne_of_lt hlt)
  · exact (hf b hb).2
  · exact hothers b hb (Nat.ne_of_gt hgt)

theorem Block.canonical_insert {b : Block} (h : ∀ x, b.contains x = true → b.Canonical) {x : Nat}
    (hx : x < Lows.limit) : (b.insert x).Canonical := by
  unfold Block.insert
  split
  · next hmem => exact h x hmem
  · apply Block.canonical_ofLows (x := x)
    rw [Lows.contains_union, Lows.contains_single]
    simp [hx]

theorem canonical_insert {p : Postings} (h : p.Canonical) (id : PostingsId) :
    (p.insert id).Canonical := by
  refine canonical_alter h.proper (high_lt id) (fun b hb _ => h.blocks b hb) ?_
  intro b hb
  rw [← Option.some.inj hb]
  refine ⟨by rw [Block.key_insert, key_getD h.proper.ordered], ?_⟩
  apply Block.canonical_insert _ id.low_lt
  intro x hx
  cases hfind : p.find? id.high with
  | none =>
    rw [hfind] at hx
    cases hx
  | some c => exact h.of_find? hfind

end Postings

end InvertedIndex
