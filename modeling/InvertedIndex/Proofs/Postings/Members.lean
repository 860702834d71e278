import InvertedIndex.Postings.Ordered
import Mathlib.Data.List.Sort

namespace InvertedIndex

namespace Boundaries

theorem members_cons_cons (lo hi : Nat) (rest : List Nat) :
    members (lo :: hi :: rest) = List.range' lo (hi - lo) ++ members rest := rfl

theorem mem_members {bs : List Nat} (h : Ascending bs) (hend : atEnd false bs = false) {x : Nat} :
    x ∈ members bs ↔ inside false bs x = true := by
  fun_induction runs bs with
  | case1 lo hi rest ih =>
    obtain ⟨hlo, h⟩ := List.pairwise_cons.mp h
    obtain ⟨hhi, hrest⟩ := List.pairwise_cons.mp h
    have hlt : lo < hi := hlo hi (by simp)
    rw [members_cons_cons, List.mem_append, ih hrest hend, List.mem_range'_1, inside_cons,
      inside_cons]
    split
    · have hout : inside false rest x = false :=
        inside_of_lt fun b hb => by
          have := hhi b hb
          omega
      simp only [hout]
      grind
    · split
      · simp only [Bool.not_false]
        grind
      · simp only [Bool.not_false, Bool.not_true]
        grind
  | case2 bs hne =>
    match bs with
    | [] => simp [members, runs]
    | [b] => simp at hend
    | lo :: hi :: rest => exact absurd rfl (hne lo hi rest)

theorem ascending_members {bs : List Nat} (h : Ascending bs) (hend : atEnd false bs = false) :
    (members bs).Pairwise (· < ·) := by
  fun_induction runs bs with
  | case1 lo hi rest ih =>
    have hrest := (List.pairwise_cons.mp (List.pairwise_cons.mp h).2).2
    have hhi := (List.pairwise_cons.mp (List.pairwise_cons.mp h).2).1
    rw [members_cons_cons, List.pairwise_append]
    refine ⟨List.pairwise_lt_range' 1, ih hrest hend, fun x hx y hy => ?_⟩
    rw [List.mem_range'_1] at hx
    rw [mem_members hrest hend] at hy
    rcases Nat.lt_or_ge y hi with hyhi | hyhi
    · have hout : inside false rest y = false :=
        inside_of_lt fun b hb => Nat.lt_trans hyhi (hhi b hb)
      rw [hout] at hy
      cases hy
    · omega
  | case2 bs hne =>
    match bs with
    | [] => exact List.Pairwise.nil
    | [b] => simp at hend
    | lo :: hi :: rest => exact absurd rfl (hne lo hi rest)

end Boundaries

namespace Postings

namespace Lows

theorem mem_toList {s : Lows} {x : Nat} : x ∈ s.toList ↔ s.contains x = true :=
  Boundaries.mem_members s.ascending s.isFinite

theorem ascending_toList (s : Lows) : s.toList.Pairwise (· < ·) :=
  Boundaries.ascending_members s.ascending s.isFinite

/-- A set lists what an ascending list has if both have the same members. -/
theorem toList_eq {s : Lows} {xs : List Nat} (h : xs.Pairwise (· < ·))
    (hmem : ∀ x, x ∈ xs ↔ s.contains x = true) : s.toList = xs :=
  s.ascending_toList.eq_of_mem_iff h fun x => mem_toList.trans (hmem x).symm

end Lows

/-- Numbers have 32 bits, so the keys of their blocks have 16. -/
def Keyed (p : Postings) : Prop := ∀ b ∈ p.blocks, b.key < 0x10000

theorem toNat_join {key low : Nat} (hkey : key < 0x10000) (hlow : low < 0x10000) :
    (join key low).toNat = 0x10000 * key + low := by
  rw [join, UInt32.toNat_ofNat']
  exact Nat.mod_eq_of_lt (by omega)

/-- A number is put together from a key and what is below it in one way. -/
theorem join_eq_iff {key low : Nat} (hkey : key < 0x10000) (hlow : low < 0x10000)
    {id : PostingsId} : join key low = id ↔ key = id.high ∧ low = id.low := by
  have hjoin := toNat_join hkey hlow
  have hid := id.toNat_eq
  have hidlow : id.low < 0x10000 := id.low_lt
  constructor
  · rintro rfl
    omega
  · rintro ⟨rfl, rfl⟩
    apply UInt32.toNat.inj
    omega

/-- The members of a block as numbers of 32 bits. -/
def Block.ids (b : Block) : List PostingsId := b.lows.toList.map (join b.key)

theorem toList_eq_flatMap (p : Postings) : p.toList = p.blocks.flatMap Block.ids := rfl

/-- A block lists its members under its key. -/
theorem Block.mem_ids {b : Block} (h : b.key < 0x10000) {id : PostingsId} :
    id ∈ b.ids ↔ b.key = id.high ∧ b.contains id.low = true := by
  rw [Block.ids, List.mem_map]
  constructor
  · rintro ⟨x, hx, hjoin⟩
    rw [Lows.mem_toList] at hx
    obtain ⟨hkey, rfl⟩ := (join_eq_iff h (Lows.lt_limit_of_contains hx)).mp hjoin
    exact ⟨hkey, hx⟩
  · rintro ⟨hkey, hlow⟩
    exact ⟨id.low, Lows.mem_toList.mpr hlow, (join_eq_iff h id.low_lt).mpr ⟨hkey, rfl⟩⟩

theorem Block.ascending_ids {b : Block} (h : b.key < 0x10000) : b.ids.Pairwise (· < ·) := by
  rw [Block.ids, List.pairwise_map]
  refine b.lows.ascending_toList.imp_of_mem fun {x y} hx hy hxy => ?_
  have hx' : x < 0x10000 := Lows.lt_limit_of_contains (Lows.mem_toList.mp hx)
  have hy' : y < 0x10000 := Lows.lt_limit_of_contains (Lows.mem_toList.mp hy)
  rw [UInt32.lt_iff_toNat_lt, toNat_join h hx', toNat_join h hy']
  omega

/-- Keys that ascend and have 16 bits. -/
structure Proper (p : Postings) : Prop where
  ordered : p.Ordered
  keyed : p.Keyed

theorem any_find?_key {bs : List Block} (h : bs.Pairwise (·.key < ·.key)) (key : Nat)
    (test : Block → Bool) :
    (bs.find? (·.key == key)).any test = bs.any fun b => b.key == key && test b := by
  induction bs with
  | nil => rfl
  | cons b bs ih =>
    obtain ⟨hb, hbs⟩ := List.pairwise_cons.mp h
    rw [List.find?_cons, List.any_cons]
    cases hkey : b.key == key with
    | false => simpa using ih hbs
    | true =>
      have hrest : (bs.any fun c => c.key == key && test c) = false := by
        rw [List.any_eq_false]
        intro c hc
        have hlt := hb c hc
        have heq := beq_iff_eq.mp hkey
        have hne : (c.key == key) = false := beq_eq_false_iff_ne.mpr (by omega)
        simp [hne]
      simp [hrest]

theorem mem_toList {p : Postings} (h : p.Proper) {id : PostingsId} :
    id ∈ p.toList ↔ p.contains id = true := by
  rw [toList_eq_flatMap, List.mem_flatMap, contains_eq h.ordered,
    any_find?_key (ordered_iff.mp h.ordered), List.any_eq_true]
  refine exists_congr fun b => and_congr_right fun hb => ?_
  rw [Block.mem_ids (h.keyed b hb), Bool.and_eq_true, beq_iff_eq]

/-- A list whose keys ascend lists its members in ascending order, each of them once. -/
theorem ascending_toList {p : Postings} (h : p.Proper) : p.toList.Pairwise (· < ·) := by
  rw [toList_eq_flatMap, List.pairwise_flatMap]
  refine ⟨fun b hb => Block.ascending_ids (h.keyed b hb), ?_⟩
  refine (ordered_iff.mp h.ordered).imp_of_mem fun {b c} hb hc hbc x hx y hy => ?_
  have hxkey := (Block.mem_ids (h.keyed b hb)).mp hx
  have hykey := (Block.mem_ids (h.keyed c hc)).mp hy
  have hx := x.toNat_eq
  have hy := y.toNat_eq
  have hxlow : x.low < 0x10000 := x.low_lt
  rw [UInt32.lt_iff_toNat_lt]
  omega

theorem toList_filterMap (bs : List Block) (f : Block → Option Block) :
    (⟨bs.filterMap f⟩ : Postings).toList = bs.flatMap fun b => ((f b).map Block.ids).getD [] := by
  induction bs with
  | nil => rfl
  | cons b bs ih =>
    rw [toList_eq_flatMap] at ih ⊢
    rw [List.filterMap_cons, List.flatMap_cons, ← ih]
    cases f b <;> rfl

/-- What is left of a block, listed. -/
theorem ids_removeRange? (b : Block) (lo hi : Nat) :
    ((b.removeRange? lo hi).map Block.ids).getD [] =
      (b.lows.toList.filter fun x => !(decide (lo ≤ x) && decide (x < hi))).map (join b.key) := by
  have hleft : (b.lows.diff (.between lo hi)).toList =
      b.lows.toList.filter fun x => !(decide (lo ≤ x) && decide (x < hi)) := by
    refine Lows.toList_eq (b.lows.ascending_toList.filter _) fun x => ?_
    rw [List.mem_filter, Lows.mem_toList, Lows.contains_diff, Lows.contains_between,
      Bool.and_eq_true]
    refine and_congr_right fun hx => ?_
    rw [decide_eq_true (Lows.lt_limit_of_contains hx), Bool.and_true]
  rw [Block.removeRange?, Block.nonempty?, ← hleft]
  split
  · next hempty =>
    have hnone : b.lows.diff (.between lo hi) = .empty := Lows.isEmpty_iff.mp hempty
    rw [hnone]
    rfl
  · rfl

/-- A removal takes the members of the range from the list and leaves the others in place. -/
theorem toList_removeBetween {p : Postings} (h : p.Keyed) (lo hi : Nat) :
    (p.removeBetween lo hi).toList =
      p.toList.filter fun id => !(decide (lo ≤ id.toNat) && decide (id.toNat < hi)) := by
  have keep {ids : List PostingsId} (hids : ∀ id ∈ ids, ¬(lo ≤ id.toNat ∧ id.toNat < hi)) :
      ids = ids.filter fun id => !(decide (lo ≤ id.toNat) && decide (id.toNat < hi)) := by
    refine (List.filter_eq_self.mpr fun id hid => ?_).symm
    have hout := hids id hid
    grind
  rw [removeBetween]
  split
  · exact keep fun id _ => by omega
  · next hlt =>
    rw [toList_filterMap, toList_eq_flatMap, List.filter_flatMap]
    refine List.flatMap_congr fun b hb => ?_
    have hkey := h b hb
    split
    · next hrange =>
      rw [ids_removeRange?, Block.ids, List.filter_map]
      congr 1
      refine List.filter_congr fun x hx => ?_
      have hx : x < 0x10000 := Lows.lt_limit_of_contains (Lows.mem_toList.mp hx)
      have hlo : decide (lo - 0x10000 * b.key ≤ x) = decide (lo ≤ 0x10000 * b.key + x) :=
        decide_eq_decide.mpr (by omega)
      have hhi : decide (x < hi - 0x10000 * b.key) = decide (0x10000 * b.key + x < hi) :=
        decide_eq_decide.mpr (by omega)
      rw [Function.comp_apply, toNat_join hkey hx, hlo, hhi]
    · next hrange =>
      refine keep fun id hid => ?_
      have hid := (Block.mem_ids hkey).mp hid
      have hlow : id.low < 0x10000 := id.low_lt
      have heq := id.toNat_eq
      omega

theorem toList_truncate {p : Postings} (h : p.Keyed) (min : PostingsId) :
    (p.truncate min).toList = p.toList.filter (· < min) := by
  rw [truncate, toList_removeBetween h]
  refine List.filter_congr fun id _ => ?_
  rw [decide_eq_true id.toNat_lt_size, Bool.and_true, ← decide_not]
  exact decide_eq_decide.mpr (by rw [UInt32.lt_iff_toNat_lt, Nat.not_le])

theorem proper_empty : (∅ : Postings).Proper :=
  ⟨ordered_empty, fun _ hb => absurd hb List.not_mem_nil⟩

theorem high_lt (id : PostingsId) : id.high < 0x10000 := by
  have h := id.toNat_lt_size
  have heq := id.toNat_eq
  have hsize : UInt32.size = 0x100000000 := rfl
  omega

theorem proper_alter {p : Postings} (h : p.Proper) {key : Nat} (hkey : key < 0x10000)
    {f : Option Block → Option Block} (hf : ∀ b, f (p.find? key) = some b → b.key = key) :
    (p.alter key f).Proper := by
  refine ⟨ordered_alter h.ordered hf, fun b hb => ?_⟩
  rw [alter_eq h.ordered, List.mem_append, List.mem_append, List.mem_filter, List.mem_filter,
    Option.mem_toList] at hb
  rcases hb with (hb | hb) | hb
  · exact h.keyed b hb.1
  · rw [hf b hb]
    exact hkey
  · exact h.keyed b hb.1

theorem proper_filterMap {p : Postings} (h : p.Proper) {f : Block → Option Block}
    (hf : ∀ b c, f b = some c → c.key = b.key) : (⟨p.blocks.filterMap f⟩ : Postings).Proper := by
  refine ⟨ordered_filterMap h.ordered hf, fun c hc => ?_⟩
  obtain ⟨b, hb, hbc⟩ := List.mem_filterMap.mp hc
  rw [hf b c hbc]
  exact h.keyed b hb

theorem proper_insert {p : Postings} (h : p.Proper) (id : PostingsId) : (p.insert id).Proper := by
  refine proper_alter h (high_lt id) fun b hb => ?_
  rw [← Option.some.inj hb, Block.key_insert, key_getD h.ordered]

theorem proper_merge {p : Postings} (h : p.Proper) {c : Block} (hc : c.key < 0x10000) :
    (p.merge c).Proper :=
  proper_alter h hc fun _ hd => key_of_merged h.ordered hd

theorem proper_union {p q : Postings} (hp : p.Proper) (hq : q.Keyed) : (p.union q).Proper := by
  have key (cs : List Block) (hcs : ∀ c ∈ cs, c.key < 0x10000) {p : Postings} (hp : p.Proper) :
      (cs.foldl merge p).Proper := by
    induction cs generalizing p with
    | nil => exact hp
    | cons c cs ih =>
      exact ih (fun d hd => hcs d (by simp [hd])) (proper_merge hp (hcs c (by simp)))
  exact key q.blocks hq hp

theorem proper_inter {p : Postings} (h : p.Proper) (q : Postings) : (p.inter q).Proper := by
  refine proper_filterMap h fun b d hd => ?_
  obtain ⟨c, _, hd⟩ := Option.bind_eq_some_iff.mp hd
  exact Block.key_of_inter? hd

theorem proper_fill {p : Postings} (h : p.Proper) (lo hi : Nat) {key : Nat}
    (hkey : key < 0x10000) : (fill lo hi p key).Proper := by
  refine proper_alter h hkey fun b hb => ?_
  rw [← Option.some.inj hb, Block.key_insertRange, key_getD h.ordered]

theorem proper_insertBetween {p : Postings} (h : p.Proper) (lo : Nat) {hi : Nat}
    (hhi : hi ≤ UInt32.size) : (p.insertBetween lo hi).Proper := by
  have hsize : UInt32.size = 0x100000000 := rfl
  have fills (ks : List Nat) (hks : ∀ k ∈ ks, k < 0x10000) {p : Postings} (hp : p.Proper) :
      (ks.foldl (fill lo hi) p).Proper := by
    induction ks generalizing p with
    | nil => exact hp
    | cons k ks ih =>
      exact ih (fun l hl => hks l (by simp [hl])) (proper_fill hp lo hi (hks k (by simp)))
  rw [insertBetween]
  split
  · exact h
  · next hlt =>
    split
    · exact proper_fill h lo hi (by omega)
    · refine fills _ (fun k hk => ?_) (proper_alter h (by omega) fun b hb => ?_)
      · rw [List.mem_range'_1] at hk
        omega
      · rw [← Option.some.inj hb, key_getD h.ordered]

theorem proper_unionOf {ps : List Postings} (h : ∀ p ∈ ps, p.Proper) : (unionOf ps).Proper := by
  have pairs_proper (ps : List Postings) (h : ∀ p ∈ ps, p.Proper) : ∀ p ∈ pairs ps, p.Proper := by
    fun_induction pairs ps with
    | case1 p q rest ih =>
      intro r hr
      rcases List.mem_cons.mp hr with rfl | hr
      · exact proper_union (h p (by simp)) (h q (by simp)).keyed
      · exact ih (fun s hs => h s (by simp [hs])) r hr
    | case2 => exact h
  fun_induction unionOf ps with
  | case1 => exact proper_empty
  | case2 p => exact h p (by simp)
  | case3 p q rest ih => exact ih (pairs_proper (p :: q :: rest) h)

theorem bounded_extend {n x : Nat} (hx : x < n) {runs : List (Nat × Nat)}
    (h : ∀ r ∈ runs, r.2 ≤ n) : ∀ r ∈ Lows.extend x runs, r.2 ≤ n := by
  unfold Lows.extend
  split
  · next lo hi rest =>
    split
    · intro r hr
      rcases List.mem_cons.mp hr with rfl | hr
      · exact h (lo, hi) (by simp)
      · exact h r (by simp [hr])
    · intro r hr
      rcases List.mem_cons.mp hr with rfl | hr
      · exact hx
      · exact h r hr
  · intro r hr
    rw [List.mem_singleton.mp hr]
    exact hx

theorem bounded_runs {n : Nat} {xs : List Nat} (h : ∀ x ∈ xs, x < n) :
    ∀ r ∈ xs.foldr Lows.extend [], r.2 ≤ n := by
  induction xs with
  | nil => simp
  | cons x xs ih => exact bounded_extend (h x (by simp)) (ih fun y hy => h y (by simp [hy]))

theorem proper_ofList (ids : List PostingsId) : (ofList ids).Proper := by
  refine proper_unionOf fun p hp => ?_
  obtain ⟨r, hr, rfl⟩ := List.mem_map.mp hp
  refine proper_insertBetween proper_empty r.1 (bounded_runs (fun x hx => ?_) r hr)
  obtain ⟨id, _, rfl⟩ := List.mem_map.mp hx
  exact id.toNat_lt_size

theorem contains_of_isEmpty {p : Postings} (h : p.isEmpty = true) (id : PostingsId) :
    p.contains id = false := by
  obtain ⟨blocks⟩ := p
  obtain rfl : blocks = [] := List.isEmpty_iff.mp h
  exact contains_empty id

/-- A list that was made of numbers is empty only if it has no members. -/
theorem isEmpty_ofList_iff (ids : List PostingsId) :
    (ofList ids).isEmpty = false ↔ ∃ id, (ofList ids).contains id = true := by
  constructor
  · intro h
    cases ids with
    | nil =>
      have hnil : ofList [] = ∅ := by simp [ofList, unionOf]; rfl
      rw [hnil] at h
      cases h
    | cons id ids => exact ⟨id, by rw [contains_ofList]; simp⟩
  · rintro ⟨id, hid⟩
    by_contra hempty
    rw [contains_of_isEmpty (by simpa using hempty) id] at hid
    cases hid

end Postings

end InvertedIndex
