import InvertedIndex.Postings

namespace InvertedIndex.Postings

theorem ordered_iff {p : Postings} : p.Ordered ↔ p.blocks.Pairwise (·.key < ·.key) :=
  List.pairwise_map

theorem take_countP {bs : List Block} (h : bs.Pairwise (·.key < ·.key)) (key : Nat) :
    bs.take (bs.countP (·.key < key)) = bs.filter (·.key < key) := by
  induction bs with
  | nil => rfl
  | cons b bs ih =>
    obtain ⟨hb, hbs⟩ := List.pairwise_cons.mp h
    by_cases hlt : b.key < key
    · simp [hlt, ih hbs]
    · have hnone : ∀ c ∈ bs, ¬c.key < key := fun c hc => by
        have := hb c hc
        omega
      have hzero : bs.countP (·.key < key) = 0 := List.countP_eq_zero.mpr (by simpa using hnone)
      have hempty : bs.filter (·.key < key) = [] := List.filter_eq_nil_iff.mpr (by simpa using hnone)
      simp [hlt, hzero, hempty]

theorem drop_countP {bs : List Block} (h : bs.Pairwise (·.key < ·.key)) (key : Nat) :
    bs.drop (bs.countP (·.key < key)) =
      (bs.find? (·.key == key)).toList ++ bs.filter (key < ·.key) := by
  induction bs with
  | nil => rfl
  | cons b bs ih =>
    obtain ⟨hb, hbs⟩ := List.pairwise_cons.mp h
    by_cases hlt : b.key < key
    · have hne : ¬b.key = key := by omega
      have hle : ¬key < b.key := by omega
      simp [hlt, hne, hle, ih hbs]
    · have hbehind : ∀ c ∈ bs, key < c.key := fun c hc => by
        have := hb c hc
        omega
      have hzero : bs.countP (·.key < key) = 0 :=
        List.countP_eq_zero.mpr fun c hc => by
          have := hbehind c hc
          simp only [decide_eq_true_eq]
          omega
      have hall : bs.filter (key < ·.key) = bs :=
        List.filter_eq_self.mpr (by simpa using hbehind)
      by_cases heq : b.key = key
      · simp [heq, hzero, hall]
      · have hgt : key < b.key := by omega
        have hnone : bs.find? (·.key == key) = none :=
          List.find?_eq_none.mpr fun c hc => by
            have := hbehind c hc
            simp only [beq_iff_eq]
            omega
        simp [hlt, heq, hgt, hzero, hall, hnone]

/-- In an ordered list the search parts the blocks at the key. -/
theorem split_eq {p : Postings} (h : p.Ordered) (key : Nat) :
    p.split key = (p.blocks.filter (·.key < key), p.blocks.find? (·.key == key),
      p.blocks.filter (key < ·.key)) := by
  have hbs := ordered_iff.mp h
  have hcount : p.keys.countP (· < key) = p.blocks.countP (·.key < key) := List.countP_map
  rw [split, locate_of_ascending h, hcount]
  dsimp only
  rw [take_countP hbs, drop_countP hbs]
  cases hfind : p.blocks.find? (·.key == key) with
  | none =>
    have hno : key ∉ p.keys := by
      intro hmem
      obtain ⟨b, hb, rfl⟩ := List.mem_map.mp hmem
      simpa using List.find?_eq_none.mp hfind b hb
    simp [hno]
  | some b =>
    have hyes : key ∈ p.keys := by
      have hkey : b.key = key := by simpa using List.find?_some hfind
      exact hkey ▸ List.mem_map_of_mem (List.mem_of_find?_eq_some hfind)
    simp [hyes]

theorem find?_eq {p : Postings} (h : p.Ordered) (key : Nat) :
    p.find? key = p.blocks.find? (·.key == key) := by
  rw [find?, split_eq h]

theorem contains_eq {p : Postings} (h : p.Ordered) (id : PostingsId) :
    p.contains id = (p.blocks.find? (·.key == id.high)).any (·.contains id.low) := by
  rw [contains, find?_eq h]

theorem key_of_find? {p : Postings} {key : Nat} {b : Block} (h : p.Ordered)
    (hb : p.find? key = some b) : b.key = key := by
  rw [find?_eq h] at hb
  simpa using List.find?_some hb

/-- A change of one block leaves the blocks before it and behind it as they are. -/
theorem alter_eq {p : Postings} (h : p.Ordered) (key : Nat) (f : Option Block → Option Block) :
    p.alter key f = ⟨p.blocks.filter (·.key < key) ++ (f (p.find? key)).toList
      ++ p.blocks.filter (key < ·.key)⟩ := by
  rw [alter, find?_eq h, split_eq h]

/-- A change that leaves the key of its block keeps the order. -/
theorem ordered_alter {p : Postings} (h : p.Ordered) {key : Nat} {f : Option Block → Option Block}
    (hf : ∀ b, f (p.find? key) = some b → b.key = key) : (p.alter key f).Ordered := by
  have hbs := ordered_iff.mp h
  rw [alter_eq h, ordered_iff]
  refine List.pairwise_append.mpr ⟨List.pairwise_append.mpr ⟨hbs.filter _, ?_, ?_⟩, hbs.filter _, ?_⟩
  · cases f (p.find? key) <;> simp
  · intro b hb c hc
    have hlt := (List.mem_filter.mp hb).2
    have hkey := hf c (Option.mem_toList.mp hc)
    rw [hkey]
    simpa using hlt
  · intro b hb c hc
    have hgt : key < c.key := by simpa using (List.mem_filter.mp hc).2
    rcases List.mem_append.mp hb with hb | hb
    · have hlt : b.key < key := by simpa using (List.mem_filter.mp hb).2
      omega
    · have hkey := hf b (Option.mem_toList.mp hb)
      omega

theorem find?_filter_key (bs : List Block) (test : Nat → Bool) (k : Nat) :
    (bs.filter fun b => test b.key).find? (·.key == k) =
      if test k = true then bs.find? (·.key == k) else none := by
  induction bs with
  | nil => simp
  | cons b bs ih =>
    by_cases hk : b.key = k
    · subst hk
      by_cases ht : test b.key = true
      · simp [ht]
      · simpa [List.filter_cons_of_neg, ht] using ih
    · by_cases ht : test b.key = true
      · simpa [ht, hk] using ih
      · simpa [ht, hk] using ih

/-- A change of one block is seen under its key only. -/
theorem find?_alter {p : Postings} (h : p.Ordered) {key : Nat} {f : Option Block → Option Block}
    (hf : ∀ b, f (p.find? key) = some b → b.key = key) (k : Nat) :
    (p.alter key f).find? k = if k = key then f (p.find? key) else p.find? k := by
  have hhere : (f (p.find? key)).toList.find? (·.key == k) =
      if k = key then f (p.find? key) else none := by
    cases hfind : f (p.find? key) with
    | none => simp
    | some b =>
      have hkey := hf b hfind
      by_cases hk : k = key
      · simp [hkey, hk]
      · have hne : ¬key = k := fun heq => hk heq.symm
        simp [hkey, hk, hne]
  rw [find?_eq (ordered_alter h hf), alter_eq h, List.find?_append, List.find?_append, hhere,
    find?_filter_key p.blocks (decide <| · < key), find?_filter_key p.blocks (decide <| key < ·),
    ← find?_eq h]
  rcases Nat.lt_trichotomy k key with hlt | heq | hgt
  · have hne : k ≠ key := Nat.ne_of_lt hlt
    have hle : ¬key < k := Nat.lt_asymm hlt
    simp [hlt, hne, hle]
  · subst heq
    simp
  · have hne : k ≠ key := Nat.ne_of_gt hgt
    have hle : ¬k < key := Nat.lt_asymm hgt
    simp [hgt, hne, hle]

/-- A number is looked up in the changed block if it belongs there. -/
theorem contains_alter {p : Postings} (h : p.Ordered) {key : Nat} {f : Option Block → Option Block}
    (hf : ∀ b, f (p.find? key) = some b → b.key = key) (id : PostingsId) :
    (p.alter key f).contains id =
      if id.high = key then (f (p.find? key)).any (·.contains id.low) else p.contains id := by
  rw [contains, find?_alter h hf]
  split <;> rfl

/-- A change of every block that leaves the keys keeps the order. -/
theorem ordered_filterMap {p : Postings} (h : p.Ordered) {f : Block → Option Block}
    (hf : ∀ b c, f b = some c → c.key = b.key) : (⟨p.blocks.filterMap f⟩ : Postings).Ordered := by
  refine ordered_iff.mpr ((ordered_iff.mp h).filterMap f ?_)
  intro b c hbc d hd e he
  rw [hf b d hd, hf c e he]
  exact hbc

theorem find?_filterMap {p : Postings} (h : p.Ordered) {f : Block → Option Block}
    (hf : ∀ b c, f b = some c → c.key = b.key) (key : Nat) :
    (⟨p.blocks.filterMap f⟩ : Postings).find? key = (p.find? key).bind f := by
  rw [find?_eq (ordered_filterMap h hf), find?_eq h]
  have hbs := ordered_iff.mp h
  dsimp only
  generalize p.blocks = bs at hbs
  induction bs with
  | nil => rfl
  | cons b bs ih =>
    obtain ⟨hb, hbs⟩ := List.pairwise_cons.mp hbs
    have ih := ih hbs
    cases hfb : f b with
    | none =>
      rw [List.filterMap_cons_none hfb, ih]
      by_cases hk : b.key = key
      · have hnone : bs.find? (·.key == key) = none :=
          List.find?_eq_none.mpr fun c hc => by
            have := hb c hc
            simp only [beq_iff_eq]
            omega
        simp [hk, hfb, hnone]
      · simp [hk]
    | some c =>
      rw [List.filterMap_cons_some hfb]
      have hkey := hf b c hfb
      by_cases hk : b.key = key
      · simp [hkey, hk, hfb]
      · simpa [hkey, hk] using ih

/-- After a change of every block a number is looked up in what became of its own. -/
theorem contains_filterMap {p : Postings} (h : p.Ordered) {f : Block → Option Block}
    (hf : ∀ b c, f b = some c → c.key = b.key) (id : PostingsId) :
    (⟨p.blocks.filterMap f⟩ : Postings).contains id =
      ((p.find? id.high).bind f).any (·.contains id.low) := by
  rw [contains, find?_filterMap h hf]

theorem ordered_empty : (∅ : Postings).Ordered := List.Pairwise.nil

@[simp] theorem contains_empty (id : PostingsId) : (∅ : Postings).contains id = false := by
  rw [contains_eq ordered_empty]
  rfl

theorem key_getD {p : Postings} (h : p.Ordered) (key : Nat) :
    ((p.find? key).getD (.empty key)).key = key := by
  cases hb : p.find? key with
  | none => rfl
  | some b => exact key_of_find? h hb

theorem contains_getD (p : Postings) (id : PostingsId) :
    ((p.find? id.high).getD (.empty id.high)).contains id.low = p.contains id := by
  rw [contains]
  cases p.find? id.high <;> rfl

theorem ordered_insert {p : Postings} (h : p.Ordered) (id : PostingsId) : (p.insert id).Ordered := by
  refine ordered_alter h fun b hb => ?_
  rw [← Option.some.inj hb, Block.key_insert, key_getD h]

theorem contains_insert {p : Postings} (h : p.Ordered) (id x : PostingsId) :
    (p.insert id).contains x = (id == x || p.contains x) := by
  rw [insert, contains_alter h fun b hb => by
    rw [← Option.some.inj hb, Block.key_insert, key_getD h]]
  split
  · next hhigh =>
    rw [Option.any_some, Block.contains_insert _ id.low_lt, ← hhigh, contains_getD]
    congr 1
    rw [Bool.eq_iff_iff, beq_iff_eq, beq_iff_eq, PostingsId.eq_iff]
    simp [hhigh]
  · next hhigh =>
    have hne : (id == x) = false := by
      rw [beq_eq_false_iff_ne]
      rintro rfl
      exact hhigh rfl
    rw [hne, Bool.false_or]

theorem ordered_remove {p : Postings} (h : p.Ordered) (id : PostingsId) : (p.remove id).Ordered := by
  refine ordered_alter h fun c hc => ?_
  obtain ⟨b, hb, hc⟩ := Option.bind_eq_some_iff.mp hc
  rw [Block.key_of_remove? hc, key_of_find? h hb]

theorem contains_remove {p : Postings} (h : p.Ordered) (id x : PostingsId) :
    (p.remove id).contains x = (p.contains x && !(id == x)) := by
  rw [remove, contains_alter h fun c hc => by
    obtain ⟨b, hb, hc⟩ := Option.bind_eq_some_iff.mp hc
    rw [Block.key_of_remove? hc, key_of_find? h hb]]
  have hlow (hhigh : x.high = id.high) : (id.low == x.low) = (id == x) := by
    rw [Bool.eq_iff_iff, beq_iff_eq, beq_iff_eq, PostingsId.eq_iff]
    simp [hhigh]
  split
  · next hhigh =>
    rw [contains, ← hhigh]
    cases p.find? x.high with
    | none => rfl
    | some b => rw [Option.bind_some, Option.any_some, Block.any_remove?, hlow hhigh]
  · next hhigh =>
    have hne : (id == x) = false := by
      rw [beq_eq_false_iff_ne]
      rintro rfl
      exact hhigh rfl
    rw [hne, Bool.not_false, Bool.and_true]

/-- A number lies between two bounds just when its lower half does so within its block. -/
theorem low_between (id : PostingsId) (lo hi : Nat) :
    (decide (lo - 0x10000 * id.high ≤ id.low) && decide (id.low < hi - 0x10000 * id.high)) =
      (decide (lo ≤ id.toNat) && decide (id.toNat < hi)) := by
  have h := id.toNat_eq
  rw [Bool.eq_iff_iff]
  simp only [Bool.and_eq_true, decide_eq_true_eq]
  omega

theorem ordered_fill {p : Postings} (h : p.Ordered) (lo hi key : Nat) :
    (fill lo hi p key).Ordered := by
  refine ordered_alter h fun b hb => ?_
  rw [← Option.some.inj hb, Block.key_insertRange, key_getD h]

/-- Filling a block adds the numbers of the range that belong to it. -/
theorem contains_fill {p : Postings} (h : p.Ordered) (lo hi key : Nat) (id : PostingsId) :
    (fill lo hi p key).contains id =
      (p.contains id
        || (id.high == key && (decide (lo ≤ id.toNat) && decide (id.toNat < hi)))) := by
  rw [fill, contains_alter h fun b hb => by
    rw [← Option.some.inj hb, Block.key_insertRange, key_getD h]]
  split
  · next hkey =>
    rw [Option.any_some, Block.contains_insertRange, ← hkey, contains_getD, low_between]
    simp [id.low_lt]
  · next hkey => simp [hkey]

theorem ordered_foldl_fill {p : Postings} (h : p.Ordered) (lo hi : Nat) (ks : List Nat) :
    (ks.foldl (fill lo hi) p).Ordered := by
  induction ks generalizing p with
  | nil => exact h
  | cons k ks ih => exact ih (ordered_fill h lo hi k)

theorem contains_foldl_fill {p : Postings} (h : p.Ordered) (lo hi : Nat) (ks : List Nat)
    (id : PostingsId) :
    (ks.foldl (fill lo hi) p).contains id =
      (p.contains id
        || (ks.contains id.high && (decide (lo ≤ id.toNat) && decide (id.toNat < hi)))) := by
  induction ks generalizing p with
  | nil => simp
  | cons k ks ih =>
    rw [List.foldl_cons, ih (ordered_fill h lo hi k), contains_fill h, List.contains_cons,
      Bool.or_assoc, Bool.and_or_distrib_right]

theorem ordered_insertBetween {p : Postings} (h : p.Ordered) (lo hi : Nat) :
    (p.insertBetween lo hi).Ordered := by
  rw [insertBetween]
  split
  · exact h
  · split
    · exact ordered_fill h lo hi _
    · refine ordered_foldl_fill (ordered_alter h fun b hb => ?_) lo hi _
      rw [← Option.some.inj hb, key_getD h]

/-- Whatever blocks a range goes over, inserting it adds its numbers and no others. -/
theorem contains_insertBetween {p : Postings} (h : p.Ordered) (lo hi : Nat) (id : PostingsId) :
    (p.insertBetween lo hi).contains id =
      (p.contains id || (decide (lo ≤ id.toNat) && decide (id.toNat < hi))) := by
  have hid := id.toNat_eq
  have hlow : id.low < 0x10000 := id.low_lt
  rw [insertBetween]
  split
  · next hle =>
    have hno : ¬(lo ≤ id.toNat ∧ id.toNat < hi) := by omega
    simp [← Bool.decide_and, hno]
  · next hlt =>
    split
    · next heq =>
      rw [contains_fill h]
      by_cases hin : lo ≤ id.toNat ∧ id.toNat < hi
      · have hkey : id.high = lo / 0x10000 := by omega
        simp [hin.1, hin.2, hkey]
      · simp [← Bool.decide_and, hin]
    · next hne =>
      have hfirst (b : Block) (hb : some ((p.find? (lo / 0x10000)).getD (.empty (lo / 0x10000)))
          = some b) : b.key = lo / 0x10000 := by
        rw [← Option.some.inj hb, key_getD h]
      rw [contains_foldl_fill (ordered_alter h hfirst), contains_alter h hfirst]
      have hsame : (if id.high = lo / 0x10000 then
          Option.any (·.contains id.low)
            (some ((p.find? (lo / 0x10000)).getD (.empty (lo / 0x10000))))
          else p.contains id) = p.contains id := by
        split
        · next hkey => rw [Option.any_some, ← hkey, contains_getD]
        · rfl
      rw [hsame]
      by_cases hin : lo ≤ id.toNat ∧ id.toNat < hi
      · have hmem : id.high ∈ List.range' (lo / 0x10000)
            ((hi - 1) / 0x10000 - lo / 0x10000 + 1) := by
          rw [List.mem_range'_1]
          omega
        simp [hin.1, hin.2, hmem]
      · simp [← Bool.decide_and, hin]

theorem ordered_removeBetween {p : Postings} (h : p.Ordered) (lo hi : Nat) :
    (p.removeBetween lo hi).Ordered := by
  rw [removeBetween]
  split
  · exact h
  · refine ordered_filterMap h fun b c hc => ?_
    split at hc
    · exact Block.key_of_removeRange? hc
    · rw [Option.some.inj hc]

/-- Whatever blocks a range goes over, removing it takes away its numbers and no others. -/
theorem contains_removeBetween {p : Postings} (h : p.Ordered) (lo hi : Nat) (id : PostingsId) :
    (p.removeBetween lo hi).contains id =
      (p.contains id && !(decide (lo ≤ id.toNat) && decide (id.toNat < hi))) := by
  have hid := id.toNat_eq
  have hlow : id.low < 0x10000 := id.low_lt
  rw [removeBetween]
  split
  · next hle =>
    have hno : ¬(lo ≤ id.toNat ∧ id.toNat < hi) := by omega
    simp [← Bool.decide_and, hno]
  · next hlt =>
    rw [contains_filterMap h fun b c hc => by
      split at hc
      · exact Block.key_of_removeRange? hc
      · rw [Option.some.inj hc]]
    rw [contains]
    cases hb : p.find? id.high with
    | none => rfl
    | some b =>
      rw [Option.bind_some, Option.any_some, key_of_find? h hb]
      split
      · next hkey => rw [Block.any_removeRange?, low_between]
      · next hkey =>
        have hno : ¬(lo ≤ id.toNat ∧ id.toNat < hi) := by omega
        simp [← Bool.decide_and, hno]

theorem contains_insertRange {p : Postings} (h : p.Ordered) (lo hi id : PostingsId) :
    (p.insertRange lo hi).contains id =
      (p.contains id || (decide (lo ≤ id) && decide (id < hi))) :=
  contains_insertBetween h lo.toNat hi.toNat id

theorem contains_ofRange (lo hi id : PostingsId) :
    (ofRange lo hi).contains id = (decide (lo ≤ id) && decide (id < hi)) :=
  (contains_insertRange ordered_empty lo hi id).trans (by rw [contains_empty, Bool.false_or])

theorem contains_removeRange {p : Postings} (h : p.Ordered) (lo hi id : PostingsId) :
    (p.removeRange lo hi).contains id =
      (p.contains id && !(decide (lo ≤ id) && decide (id < hi))) :=
  contains_removeBetween h lo.toNat hi.toNat id

theorem contains_truncate {p : Postings} (h : p.Ordered) (min id : PostingsId) :
    (p.truncate min).contains id = (p.contains id && decide (id < min)) := by
  rw [truncate, contains_removeBetween h, decide_eq_true id.toNat_lt_size, Bool.and_true,
    ← decide_not]
  congr 2
  rw [UInt32.lt_iff_toNat_lt, Nat.not_le]

theorem key_of_merged {p : Postings} (h : p.Ordered) {c d : Block}
    (hd : some ((p.find? c.key).elim c (·.union c)) = some d) : d.key = c.key := by
  rw [← Option.some.inj hd]
  cases hb : p.find? c.key with
  | none => rfl
  | some b => exact (Block.key_union b c).trans (key_of_find? h hb)

theorem ordered_merge {p : Postings} (h : p.Ordered) (c : Block) : (p.merge c).Ordered :=
  ordered_alter h fun _ hd => key_of_merged h hd

theorem contains_merge {p : Postings} (h : p.Ordered) (c : Block) (id : PostingsId) :
    (p.merge c).contains id = (p.contains id || (c.key == id.high && c.contains id.low)) := by
  rw [merge, contains_alter h fun _ hd => key_of_merged h hd]
  split
  · next hkey =>
    rw [contains, hkey]
    cases p.find? c.key with
    | none => simp
    | some b => simp [Block.contains_union]
  · next hkey =>
    have hne : (c.key == id.high) = false := beq_eq_false_iff_ne.mpr fun heq => hkey heq.symm
    rw [hne, Bool.false_and, Bool.or_false]

theorem ordered_union {p : Postings} (h : p.Ordered) (q : Postings) : (p.union q).Ordered := by
  rw [union]
  induction q.blocks generalizing p with
  | nil => exact h
  | cons c cs ih => exact ih (ordered_merge h c)

theorem contains_union {p q : Postings} (hp : p.Ordered) (hq : q.Ordered) (id : PostingsId) :
    (p.union q).contains id = (p.contains id || q.contains id) := by
  have hany : (p.union q).contains id =
      (p.contains id || q.blocks.any fun c => c.key == id.high && c.contains id.low) := by
    rw [union]
    induction q.blocks generalizing p with
    | nil => simp
    | cons c cs ih =>
      rw [List.foldl_cons, ih (ordered_merge hp c), contains_merge hp, List.any_cons, Bool.or_assoc]
  rw [hany, contains_eq hq]
  congr 1
  have hbs := ordered_iff.mp hq
  generalize q.blocks = bs at hbs
  induction bs with
  | nil => rfl
  | cons b bs ih =>
    obtain ⟨hb, hbs⟩ := List.pairwise_cons.mp hbs
    by_cases hkey : b.key = id.high
    · have hno : (bs.any fun c => c.key == id.high && c.contains id.low) = false := by
        rw [List.any_eq_false]
        intro c hc
        have := hb c hc
        have hne : ¬c.key = id.high := by omega
        simp [hne]
      simp [hkey, hno]
    · rw [List.any_cons, List.find?_cons, beq_eq_false_iff_ne.mpr hkey]
      simpa using ih hbs

theorem ordered_inter {p : Postings} (h : p.Ordered) (q : Postings) : (p.inter q).Ordered := by
  refine ordered_filterMap h fun b d hd => ?_
  obtain ⟨c, _, hd⟩ := Option.bind_eq_some_iff.mp hd
  exact Block.key_of_inter? hd

theorem contains_inter {p : Postings} (h : p.Ordered) (q : Postings) (id : PostingsId) :
    (p.inter q).contains id = (p.contains id && q.contains id) := by
  rw [inter, contains_filterMap h fun b d hd => by
    obtain ⟨c, _, hd⟩ := Option.bind_eq_some_iff.mp hd
    exact Block.key_of_inter? hd]
  rw [contains]
  cases hb : p.find? id.high with
  | none => rfl
  | some b =>
    rw [Option.bind_some, Option.any_some, key_of_find? h hb, contains]
    cases q.find? id.high with
    | none => simp
    | some c => rw [Option.bind_some, Block.any_inter?, Option.any_some]

theorem ordered_diff {p : Postings} (h : p.Ordered) (q : Postings) : (p.diff q).Ordered := by
  refine ordered_filterMap h fun b d hd => ?_
  cases hc : q.find? b.key with
  | none => rw [hc] at hd; rw [Option.some.inj hd]
  | some c => rw [hc] at hd; exact Block.key_of_diff? hd

theorem contains_diff {p : Postings} (h : p.Ordered) (q : Postings) (id : PostingsId) :
    (p.diff q).contains id = (p.contains id && !q.contains id) := by
  rw [diff, contains_filterMap h fun b d hd => by
    cases hc : q.find? b.key with
    | none => rw [hc] at hd; rw [Option.some.inj hd]
    | some c => rw [hc] at hd; exact Block.key_of_diff? hd]
  rw [contains]
  cases hb : p.find? id.high with
  | none => rfl
  | some b =>
    rw [Option.bind_some, Option.any_some, key_of_find? h hb, contains]
    cases q.find? id.high with
    | none => simp
    | some c => rw [Option.elim_some, Block.any_diff?, Option.any_some]

theorem ordered_pairs {ps : List Postings} (h : ∀ p ∈ ps, p.Ordered) :
    ∀ p ∈ pairs ps, p.Ordered := by
  fun_induction pairs ps with
  | case1 p q rest ih =>
    intro r hr
    rcases List.mem_cons.mp hr with rfl | hr
    · exact ordered_union (h p (by simp)) q
    · exact ih (fun s hs => h s (by simp [hs])) r hr
  | case2 => exact h

theorem any_pairs {ps : List Postings} (h : ∀ p ∈ ps, p.Ordered) (id : PostingsId) :
    (pairs ps).any (·.contains id) = ps.any (·.contains id) := by
  fun_induction pairs ps with
  | case1 p q rest ih =>
    have hrest := ih fun s hs => h s (by simp [hs])
    simp [hrest, contains_union (h p (by simp)) (h q (by simp)), Bool.or_assoc]
  | case2 => rfl

theorem ordered_unionOf {ps : List Postings} (h : ∀ p ∈ ps, p.Ordered) : (unionOf ps).Ordered := by
  fun_induction unionOf ps with
  | case1 => exact ordered_empty
  | case2 p => exact h p (by simp)
  | case3 p q rest ih => exact ih (ordered_pairs h)

theorem contains_unionOf {ps : List Postings} (h : ∀ p ∈ ps, p.Ordered) (id : PostingsId) :
    (unionOf ps).contains id = ps.any (·.contains id) := by
  fun_induction unionOf ps with
  | case1 => exact contains_empty id
  | case2 p => simp
  | case3 p q rest ih => exact (ih (ordered_pairs h)).trans (any_pairs h id)

theorem ordered_ofList (ids : List PostingsId) : (ofList ids).Ordered := by
  refine ordered_unionOf fun p hp => ?_
  obtain ⟨r, _, rfl⟩ := List.mem_map.mp hp
  exact ordered_insertBetween ordered_empty r.1 r.2

theorem contains_ofList (ids : List PostingsId) (id : PostingsId) :
    (ofList ids).contains id = ids.contains id := by
  have hmem : (ids.map UInt32.toNat).contains id.toNat = ids.contains id := by
    rw [Bool.eq_iff_iff, List.contains_iff_mem, List.contains_iff_mem, List.mem_map]
    exact ⟨fun ⟨x, hx, heq⟩ => UInt32.toNat.inj heq ▸ hx, fun h => ⟨id, h, rfl⟩⟩
  rw [ofList, contains_unionOf fun p hp => by
    obtain ⟨r, _, rfl⟩ := List.mem_map.mp hp
    exact ordered_insertBetween ordered_empty r.1 r.2]
  rw [← hmem, ← Lows.covered_runs, Lows.covered, List.any_map]
  congr 1
  funext r
  exact (contains_insertBetween ordered_empty r.1 r.2 id).trans (by rw [contains_empty]; rfl)

end InvertedIndex.Postings
