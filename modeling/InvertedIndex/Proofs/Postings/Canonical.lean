import InvertedIndex.Proofs.Postings.Format

namespace InvertedIndex.Postings

theorem Lows.contains_of_size_eq_zero {s : Lows} (h : s.size = 0) (x : Nat) : s.contains x = false := by
  rw [← length_toList, List.length_eq_zero_iff] at h
  rw [← Bool.not_eq_true, ← mem_toList, h]
  exact List.not_mem_nil

theorem Lows.exists_contains {s : Lows} (h : 0 < s.size) : ∃ x, s.contains x = true := by
  rw [← length_toList] at h
  obtain ⟨x, hx⟩ := List.exists_mem_of_length_pos h
  exact ⟨x, mem_toList.mp hx⟩

theorem Lows.size_pos_of_isEmpty {s : Lows} (h : s.isEmpty = false) : 0 < s.size := by
  rw [Nat.pos_iff_ne_zero]
  intro hzero
  have hempty : s = empty := by
    apply ext_contains
    intro x
    rw [contains_of_size_eq_zero hzero, contains_empty]
  rw [isEmpty_iff.mpr hempty] at h
  cases h

namespace Block

theorem canonical_of_nonempty? {key : Nat} {lows : Lows} {c : Block}
    (h : (ofLows key lows).nonempty? = some c) : c.Canonical := by
  unfold nonempty? at h
  split at h
  · cases h
  · next hmembers =>
    rw [← Option.some.inj h]
    exact ⟨rfl, Lows.size_pos_of_isEmpty (Bool.eq_false_of_not_eq_true hmembers)⟩

theorem canonical_remove? {b c : Block} (hb : b.Canonical) {x : Nat} (h : b.remove? x = some c) :
    c.Canonical := by
  unfold remove? at h
  split at h
  · exact canonical_of_nonempty? h
  · rwa [← Option.some.inj h]

theorem canonical_union {b : Block} (hb : b.Canonical) (c : Block) : (b.union c).Canonical := by
  obtain ⟨x, hx⟩ := Lows.exists_contains hb.size_pos
  apply canonical_ofLows (x := x)
  rw [Lows.contains_union, hx, Bool.true_or]

/-- A range that is not empty leaves no block empty. -/
theorem canonical_insertRange (b : Block) {lo hi : Nat} (hlt : lo < hi) (hlo : lo < Lows.limit) :
    (b.insertRange lo hi).Canonical := by
  apply canonical_ofLows (x := lo)
  rw [Lows.contains_union, Lows.contains_between]
  simp [hlt, hlo]

end Block

variable {p : Postings}

/-- A block that loses its last member goes with it. -/
theorem canonical_remove (h : p.Canonical) (id : PostingsId) : (p.remove id).Canonical := by
  refine canonical_alter h.proper (high_lt id) (fun b hb _ => h.blocks b hb) ?_
  intro c hc
  obtain ⟨b, hb, hc⟩ := Option.bind_eq_some_iff.mp hc
  have hkey := Block.key_of_remove? hc
  rw [key_of_find? h.proper.ordered hb] at hkey
  exact ⟨hkey, Block.canonical_remove? (h.of_find? hb) hc⟩

theorem canonical_fill (h : p.Proper) {lo hi key : Nat} (hkey : key < 0x10000)
    (hlt : lo < hi) (hfirst : lo / 0x10000 ≤ key) (hlast : key ≤ (hi - 1) / 0x10000)
    (hothers : ∀ b ∈ p.blocks, b.key ≠ key → b.Canonical) : (fill lo hi p key).Canonical := by
  refine canonical_alter h hkey hothers ?_
  intro b hb
  rw [← Option.some.inj hb]
  refine ⟨by rw [Block.key_insertRange, key_getD h.ordered], ?_⟩
  have hlimit : Lows.limit = 0x10000 := rfl
  exact Block.canonical_insertRange _ (by omega) (by omega)

/-- The form holds also at the ends of a range that goes over several blocks. -/
theorem canonical_foldl_fill (h : p.Canonical) {lo hi : Nat} (hlt : lo < hi)
    (hhi : hi ≤ UInt32.size) {ks : List Nat}
    (hks : ∀ k ∈ ks, lo / 0x10000 ≤ k ∧ k ≤ (hi - 1) / 0x10000) :
    (ks.foldl (fill lo hi) p).Canonical := by
  have hsize : UInt32.size = 0x100000000 := rfl
  induction ks generalizing p with
  | nil => exact h
  | cons k ks ih =>
    obtain ⟨hfirst, hlast⟩ := hks k (by simp)
    have hfill := canonical_fill h.proper (by omega) hlt hfirst hlast fun b hb _ => h.blocks b hb
    exact ih hfill fun l hl => hks l (by simp [hl])

/-- The first block may be there without members when it is filled, as the others are new or have
some. -/
theorem canonical_insertBetween (h : p.Canonical) (lo : Nat) {hi : Nat} (hhi : hi ≤ UInt32.size) :
    (p.insertBetween lo hi).Canonical := by
  have hsize : UInt32.size = 0x100000000 := rfl
  rw [insertBetween]
  split
  · exact h
  · next hlt =>
    have hlt : lo < hi := Nat.lt_of_not_le hlt
    split
    · next heq =>
      exact canonical_fill h.proper (by omega) hlt (Nat.le_refl _) (Nat.le_of_eq heq)
        fun b hb _ => h.blocks b hb
    · next hne =>
      have hfirst : lo / 0x10000 < 0x10000 := by omega
      have hnew : ∀ b, some ((p.find? (lo / 0x10000)).getD (.empty (lo / 0x10000))) = some b →
          b.key = lo / 0x10000 := by
        intro b hb
        rw [← Option.some.inj hb, key_getD h.proper.ordered]
      have hothers : ∀ b ∈ (p.alter (lo / 0x10000) fun b =>
          some (b.getD (.empty (lo / 0x10000)))).blocks, b.key ≠ lo / 0x10000 → b.Canonical := by
        intro b hb hkey
        rw [alter_eq h.proper.ordered] at hb
        simp only [List.mem_append, List.mem_filter, Option.mem_toList] at hb
        obtain (⟨hb, -⟩ | hb) | ⟨hb, -⟩ := hb
        · exact h.blocks b hb
        · exact absurd (hnew b hb) hkey
        · exact h.blocks b hb
      have hfill := canonical_fill (proper_alter h.proper hfirst hnew) hfirst hlt (Nat.le_refl _)
        (by omega) hothers
      rw [List.range'_succ, List.foldl_cons]
      apply canonical_foldl_fill hfill hlt hhi
      intro k hk
      rw [List.mem_range'_1] at hk
      omega

/-- A change of every block that leads to canonical blocks leads to canonical postings. -/
theorem canonical_filterMap (h : p.Canonical) {f : Block → Option Block}
    (hkey : ∀ b c, f b = some c → c.key = b.key)
    (hform : ∀ b c, b.Canonical → f b = some c → c.Canonical) :
    (⟨p.blocks.filterMap f⟩ : Postings).Canonical := by
  refine ⟨proper_filterMap h.proper hkey, ?_⟩
  intro c hc
  obtain ⟨b, hb, hbc⟩ := List.mem_filterMap.mp hc
  exact hform b c (h.blocks b hb) hbc

theorem canonical_removeBetween (h : p.Canonical) (lo hi : Nat) : (p.removeBetween lo hi).Canonical := by
  rw [removeBetween]
  split
  · exact h
  · refine canonical_filterMap h (fun b c hc => ?_) (fun b c hb hc => ?_)
    · split at hc
      · exact Block.key_of_removeRange? hc
      · rw [Option.some.inj hc]
    · split at hc
      · exact Block.canonical_of_nonempty? hc
      · rwa [← Option.some.inj hc]

theorem canonical_inter (h : p.Canonical) (q : Postings) : (p.inter q).Canonical := by
  refine canonical_filterMap h (fun b d hd => ?_) (fun b d _ hd => ?_)
  · obtain ⟨c, -, hd⟩ := Option.bind_eq_some_iff.mp hd
    exact Block.key_of_inter? hd
  · obtain ⟨c, -, hd⟩ := Option.bind_eq_some_iff.mp hd
    exact Block.canonical_of_nonempty? hd

theorem canonical_diff (h : p.Canonical) (q : Postings) : (p.diff q).Canonical := by
  refine canonical_filterMap h (fun b d hd => ?_) (fun b d hb hd => ?_)
  · cases hc : q.find? b.key with
    | none =>
      rw [hc] at hd
      rw [Option.some.inj hd]
    | some c =>
      rw [hc] at hd
      exact Block.key_of_diff? hd
  · cases hc : q.find? b.key with
    | none =>
      rw [hc] at hd
      rwa [← Option.some.inj hd]
    | some c =>
      rw [hc] at hd
      exact Block.canonical_of_nonempty? hd

theorem canonical_merge (h : p.Canonical) {c : Block} (hkey : c.key < 0x10000) (hc : c.Canonical) :
    (p.merge c).Canonical := by
  refine canonical_alter h.proper hkey (fun b hb _ => h.blocks b hb) ?_
  intro d hd
  refine ⟨key_of_merged h.proper.ordered hd, ?_⟩
  rw [← Option.some.inj hd]
  cases hb : p.find? c.key with
  | none => exact hc
  | some b => exact Block.canonical_union (h.of_find? hb) c

theorem canonical_union (h : p.Canonical) {q : Postings} (hq : q.Canonical) : (p.union q).Canonical := by
  have merges (cs : List Block) (hcs : ∀ c ∈ cs, c.key < 0x10000 ∧ c.Canonical) {p : Postings}
      (h : p.Canonical) : (cs.foldl merge p).Canonical := by
    induction cs generalizing p with
    | nil => exact h
    | cons c cs ih =>
      obtain ⟨hkey, hc⟩ := hcs c (by simp)
      exact ih (fun d hd => hcs d (by simp [hd])) (canonical_merge h hkey hc)
  exact merges q.blocks (fun c hc => ⟨hq.proper.keyed c hc, hq.blocks c hc⟩) h

theorem canonical_pairs {ps : List Postings} (h : ∀ p ∈ ps, p.Canonical) :
    ∀ p ∈ pairs ps, p.Canonical := by
  fun_induction pairs ps with
  | case1 p q rest ih =>
    intro r hr
    cases List.mem_cons.mp hr with
    | inl hr =>
      rw [hr]
      exact canonical_union (h p (by simp)) (h q (by simp))
    | inr hr => exact ih (fun s hs => h s (by simp [hs])) r hr
  | case2 => exact h

theorem canonical_unionOf {ps : List Postings} (h : ∀ p ∈ ps, p.Canonical) : (unionOf ps).Canonical := by
  fun_induction unionOf ps with
  | case1 => exact canonical_empty
  | case2 p => exact h p (by simp)
  | case3 p q rest ih => exact ih (canonical_pairs h)

theorem canonical_ofList (ids : List PostingsId) : (ofList ids).Canonical := by
  refine canonical_unionOf fun p hp => ?_
  obtain ⟨r, hr, rfl⟩ := List.mem_map.mp hp
  refine canonical_insertBetween canonical_empty r.1 (bounded_runs (fun x hx => ?_) r hr)
  obtain ⟨id, -, rfl⟩ := List.mem_map.mp hx
  exact id.toNat_lt_size

theorem Block.eq_of_contains {b c : Block} (hb : b.Canonical) (hc : c.Canonical) (hkey : b.key = c.key)
    (h : ∀ x, b.contains x = c.contains x) : b = c := by
  obtain ⟨bkey, bform, blows⟩ := b
  obtain ⟨ckey, cform, clows⟩ := c
  obtain rfl : bkey = ckey := hkey
  obtain rfl : blows = clows := Lows.ext_contains h
  have hform : bform = cform := hb.form.trans hc.form.symm
  rw [hform]

theorem find?_of_mem (h : p.Ordered) {b : Block} (hb : b ∈ p.blocks) : p.find? b.key = some b := by
  have hany := any_find?_key (ordered_iff.mp h) b.key (· = b)
  have hfound : (p.blocks.any fun c => c.key == b.key && decide (c = b)) = true :=
    List.any_eq_true.mpr ⟨b, hb, by simp⟩
  rw [hfound, ← find?_eq h] at hany
  cases hfind : p.find? b.key with
  | none =>
    rw [hfind] at hany
    cases hany
  | some c =>
    rw [hfind, Option.any_some, decide_eq_true_iff] at hany
    rw [hany]

/-- What a list has of the numbers of one block. -/
theorem contains_join {key x : Nat} (hkey : key < 0x10000) (hx : x < Lows.limit) :
    p.contains (join key x) = (p.find? key).any (·.contains x) := by
  obtain ⟨hhigh, hlow⟩ := (join_eq_iff hkey hx).mp rfl
  rw [contains, ← hhigh, ← hlow]

/-- A block of one of two lists with the same members is a block of the other one. -/
theorem Canonical.mem_blocks {q : Postings} (hp : p.Canonical) (hq : q.Canonical)
    (h : ∀ id, p.contains id = q.contains id) {b : Block} (hb : b ∈ p.blocks) : b ∈ q.blocks := by
  have hkey := hp.proper.keyed b hb
  have hfind := find?_of_mem hp.proper.ordered hb
  have hmembers (x : Nat) (hx : x < Lows.limit) :
      b.contains x = (q.find? b.key).any (·.contains x) := by
    have hjoin := h (join b.key x)
    rwa [contains_join hkey hx, contains_join hkey hx, hfind, Option.any_some] at hjoin
  obtain ⟨x, hx⟩ : ∃ x, b.contains x = true := Lows.exists_contains (hp.blocks b hb).size_pos
  cases hother : q.find? b.key with
  | none =>
    have hnone := hmembers x (Lows.lt_limit_of_contains hx)
    rw [hother, hx] at hnone
    cases hnone
  | some c =>
    have hsame : b = c := by
      apply Block.eq_of_contains (hp.blocks b hb) (hq.of_find? hother)
      · exact (key_of_find? hq.proper.ordered hother).symm
      · intro y
        rcases Nat.lt_or_ge y Lows.limit with hy | hy
        · rw [hmembers y hy, hother, Option.any_some]
        · have hout (d : Block) : d.contains y = false := by
            rw [← Bool.not_eq_true]
            exact fun hmem => Nat.not_lt_of_ge hy (Lows.lt_limit_of_contains hmem)
          rw [hout, hout]
    rw [find?_eq hq.proper.ordered] at hother
    rw [hsame]
    exact List.mem_of_find?_eq_some hother

/-- There is one canonical form of a set. -/
theorem Canonical.eq_of_contains {q : Postings} (hp : p.Canonical) (hq : q.Canonical)
    (h : ∀ id, p.contains id = q.contains id) : p = q := by
  have hblocks : p.blocks = q.blocks := by
    have hirrefl : Std.Irrefl fun b c : Block => b.key < c.key := ⟨fun b => Nat.lt_irrefl b.key⟩
    have hantisymm : Std.Antisymm fun b c : Block => b.key < c.key :=
      ⟨fun b c hbc hcb => absurd hbc (Nat.lt_asymm hcb)⟩
    apply (ordered_iff.mp hp.proper.ordered).eq_of_mem_iff (ordered_iff.mp hq.proper.ordered)
    exact fun b => ⟨hp.mem_blocks hq h, hq.mem_blocks hp fun id => (h id).symm⟩
  obtain ⟨pblocks⟩ := p
  obtain ⟨qblocks⟩ := q
  exact congrArg Postings.mk hblocks

end InvertedIndex.Postings
