namespace InvertedIndex.Postings

/-- The part that is still searched gets smaller by half of its length, rounded down, until at most
one key is left. The answer tells whether that is the right one. -/
def locate (key : Nat) (ks : List Nat) : Nat × Bool :=
  let half := ks.length / 2
  if half = 0 then (ks.countP (· < key), ks.contains key)
  else if key < ks.getD half 0 then locate key (ks.take (ks.length - half))
  else
    let (i, found) := locate key (ks.drop half)
    (half + i, found)
termination_by ks.length
decreasing_by
  · rw [List.length_take]; omega
  · rw [List.length_drop]; omega

private theorem countP_lt_eq_length {key : Nat} {ks : List Nat} (h : ∀ k ∈ ks, k < key) :
    ks.countP (· < key) = ks.length :=
  List.countP_eq_length.mpr fun k hk => decide_eq_true (h k hk)

private theorem countP_lt_eq_zero {key : Nat} {ks : List Nat} (h : ∀ k ∈ ks, key < k) :
    ks.countP (· < key) = 0 :=
  List.countP_eq_zero.mpr fun k hk hlt => Nat.lt_asymm (h k hk) (of_decide_eq_true hlt)

private theorem contains_eq_false {key : Nat} {ks : List Nat} (h : ∀ k ∈ ks, k ≠ key) :
    ks.contains key = false := by
  rw [List.contains_eq_mem, decide_eq_false_iff_not]
  exact fun hm => h key hm rfl

/-- In an ascending list the search finds the place of a key, or else the place where the key belongs. -/
theorem locate_of_ascending {key : Nat} {ks : List Nat} (h : ks.Pairwise (· < ·)) :
    locate key ks = (ks.countP (· < key), ks.contains key) := by
  fun_induction locate key ks with
  | case1 ks half hhalf => rfl
  | case2 ks half hhalf hlt ih =>
    have hlen : half < ks.length := by omega
    have hget : ks.getD half 0 = ks[half] := by simp [List.getD_eq_getElem?_getD, hlen]
    have hback : ∀ k ∈ ks.drop (ks.length - half), key < k := by
      intro k hk
      obtain ⟨i, hi, rfl⟩ := List.mem_drop_iff_getElem.mp hk
      have hle : ks[half] ≤ ks[ks.length - half + i] := by
        rcases Nat.lt_or_ge half (ks.length - half + i) with hlt' | hge
        · exact Nat.le_of_lt (List.pairwise_iff_getElem.mp h _ _ _ _ hlt')
        · have heq : ks.length - half + i = half := by omega
          simp [heq]
      omega
    rw [ih (h.sublist (List.take_sublist _ _))]
    have hsplit := List.take_append_drop (ks.length - half) ks
    congr 1
    · rw [← congrArg (List.countP (· < key)) hsplit, List.countP_append, countP_lt_eq_zero hback,
        Nat.add_zero]
    · rw [← congrArg (List.contains · key) hsplit, List.contains_append,
        contains_eq_false fun k hk => Nat.ne_of_gt (hback k hk), Bool.or_false]
  | case3 ks half hhalf hlt i found heq ih =>
    have hlen : half < ks.length := by omega
    have hget : ks.getD half 0 = ks[half] := by simp [List.getD_eq_getElem?_getD, hlen]
    have hfront : ∀ k ∈ ks.take half, k < key := by
      intro k hk
      obtain ⟨i, hi, rfl⟩ := List.mem_take_iff_getElem.mp hk
      have hlt' := List.pairwise_iff_getElem.mp h i half (by omega) hlen (by omega)
      omega
    have hsplit := List.take_append_drop half ks
    rw [ih (h.sublist (List.drop_sublist _ _))] at heq
    obtain ⟨rfl, rfl⟩ := Prod.mk.inj heq
    congr 1
    · rw [← congrArg (List.countP (· < key)) hsplit, List.countP_append, countP_lt_eq_length hfront,
        List.length_take, Nat.min_eq_left (Nat.le_of_lt hlen)]
    · rw [← congrArg (List.contains · key) hsplit, List.contains_append,
        contains_eq_false fun k hk => Nat.ne_of_lt (hfront k hk), Bool.false_or]

end InvertedIndex.Postings
