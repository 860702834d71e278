import InvertedIndex.Trigram.Query

namespace InvertedIndex.Trigram

/-- The windows of a string are the strings of three bytes that occur in it. -/
theorem mem_windows {t : Trigram} {bs : Bytes} : t ∈ windows bs ↔ t.toBytes <:+: bs := by
  induction bs with
  | nil => simp [windows, toBytes]
  | cons a bs ih =>
    rw [List.infix_cons_iff, ← ih]
    match bs with
    | [] => simp [windows, toBytes]
    | [b] => simp [windows, toBytes]
    | b :: c :: rest =>
      rw [windows, List.mem_cons]
      obtain ⟨x, y, z⟩ := t
      simp [toBytes]

/-- A part of a string has no windows but those of the string. -/
theorem windows_subset {xs ys : Bytes} (h : xs <:+: ys) : windows xs ⊆ windows ys :=
  fun _ ht => mem_windows.mpr ((mem_windows.mp ht).trans h)

namespace Query

theorem holdsAll_iff {ts : List Trigram} {qs : List Query} :
    holdsAll ts qs = true ↔ ∀ q ∈ qs, holds ts q = true := by
  induction qs with
  | nil => simp [holdsAll]
  | cons q qs ih => simp [holdsAll, ih]

theorem holdsAny_iff {ts : List Trigram} {qs : List Query} :
    holdsAny ts qs = true ↔ ∃ q ∈ qs, holds ts q = true := by
  induction qs with
  | nil => simp [holdsAny]
  | cons q qs ih => simp [holdsAny, ih]

theorem mem_distinct {q : Query} {qs : List Query} : q ∈ distinct qs ↔ q ∈ qs := by
  have key (qs seen : List Query) : q ∈ qs.foldl (fun seen q => if seen.contains q then seen
      else q :: seen) seen ↔ q ∈ seen ∨ q ∈ qs := by
    induction qs generalizing seen with
    | nil => simp
    | cons p qs ih =>
      rw [List.foldl_cons, ih]
      split
      · next h =>
        have hp : p ∈ seen := List.contains_iff_mem.mp h
        constructor
        · rintro (hq | hq)
          · exact .inl hq
          · exact .inr (List.mem_cons_of_mem p hq)
        · rintro (hq | hq)
          · exact .inl hq
          · rcases List.mem_cons.mp hq with rfl | hq
            · exact .inl hp
            · exact .inr hq
      · simp only [List.mem_cons, or_assoc, or_left_comm]
  rw [distinct, List.mem_reverse, key]
  simp

theorem nodup_distinct (qs : List Query) : (distinct qs).Nodup := by
  have key (qs seen : List Query) (h : seen.Nodup) :
      (qs.foldl (fun seen q => if seen.contains q then seen else q :: seen) seen).Nodup := by
    induction qs generalizing seen with
    | nil => exact h
    | cons q qs ih =>
      rw [List.foldl_cons]
      split
      · exact ih seen h
      · next hnew => exact ih (q :: seen) (List.nodup_cons.mpr ⟨mt List.contains_iff_mem.mpr hnew, h⟩)
  rw [distinct, (List.reverse_perm _).nodup_iff]
  exact key qs [] List.nodup_nil

theorem distinct_of_nodup {qs : List Query} (h : qs.Nodup) : distinct qs = qs := by
  have key (qs seen : List Query) (h : (seen.reverse ++ qs).Nodup) :
      qs.foldl (fun seen q => if seen.contains q then seen else q :: seen) seen =
        qs.reverse ++ seen := by
    induction qs generalizing seen with
    | nil => rfl
    | cons q qs ih =>
      have hnew : ¬ seen.contains q = true := by
        intro hq
        have hmem : q ∈ seen.reverse := List.mem_reverse.mpr (List.contains_iff_mem.mp hq)
        exact (List.nodup_append.mp h).2.2 q hmem q List.mem_cons_self rfl
      rw [List.foldl_cons, if_neg hnew, ih (q :: seen) (by simpa using h)]
      simp
  rw [distinct, key qs [] h, List.append_nil, List.reverse_reverse]

mutual

/-- More trigrams never make a value fail. -/
theorem holds_of_subset {ts us : List Trigram} (h : ts ⊆ us) :
    (q : Query) → holds ts q = true → holds us q = true
  | all, _ => rfl
  | none, hq => by simp [holds] at hq
  | trigram t, hq => by
    rw [holds, List.contains_iff_mem] at hq ⊢
    exact h hq
  | and subs, hq => by
    rw [holds] at hq ⊢
    exact holdsAll_of_subset h subs hq
  | or subs, hq => by
    rw [holds] at hq ⊢
    exact holdsAny_of_subset h subs hq

theorem holdsAll_of_subset {ts us : List Trigram} (h : ts ⊆ us) :
    (qs : List Query) → holdsAll ts qs = true → holdsAll us qs = true
  | [], _ => rfl
  | q :: qs, hq => by
    rw [holdsAll, Bool.and_eq_true] at hq ⊢
    exact ⟨holds_of_subset h q hq.1, holdsAll_of_subset h qs hq.2⟩

theorem holdsAny_of_subset {ts us : List Trigram} (h : ts ⊆ us) :
    (qs : List Query) → holdsAny ts qs = true → holdsAny us qs = true
  | [], hq => by simp [holdsAny] at hq
  | q :: qs, hq => by
    rw [holdsAny, Bool.or_eq_true] at hq ⊢
    exact hq.imp (holds_of_subset h q) (holdsAny_of_subset h qs)

end

variable (ts : List Trigram)

theorem holds_of_isNone {q : Query} (h : q.isNone = true) : holds ts q = false := by
  cases q <;> simp_all [isNone, holds]

theorem holds_of_isAll {q : Query} (h : q.isAll = true) : holds ts q = true := by
  cases q <;> simp_all [isAll, holds]

theorem holdsAll_conjuncts (q : Query) : holdsAll ts q.conjuncts = holds ts q := by
  cases q <;> simp [conjuncts, holdsAll, holds]

theorem holdsAny_disjuncts (q : Query) : holdsAny ts q.disjuncts = holds ts q := by
  cases q <;> simp [disjuncts, holdsAny, holds]

theorem holdsAll_append (ps qs : List Query) :
    holdsAll ts (ps ++ qs) = (holdsAll ts ps && holdsAll ts qs) := by
  induction ps with
  | nil => rfl
  | cons p ps ih => rw [List.cons_append, holdsAll, ih, holdsAll, Bool.and_assoc]

theorem holdsAny_append (ps qs : List Query) :
    holdsAny ts (ps ++ qs) = (holdsAny ts ps || holdsAny ts qs) := by
  induction ps with
  | nil => rfl
  | cons p ps ih => rw [List.cons_append, holdsAny, ih, holdsAny, Bool.or_assoc]

theorem holdsAll_flatMap_conjuncts (qs : List Query) :
    holdsAll ts (qs.flatMap conjuncts) = holdsAll ts qs := by
  induction qs with
  | nil => rfl
  | cons q qs ih => rw [List.flatMap_cons, holdsAll_append, holdsAll_conjuncts, ih, holdsAll]

theorem holdsAny_flatMap_disjuncts (qs : List Query) :
    holdsAny ts (qs.flatMap disjuncts) = holdsAny ts qs := by
  induction qs with
  | nil => rfl
  | cons q qs ih => rw [List.flatMap_cons, holdsAny_append, holdsAny_disjuncts, ih, holdsAny]

theorem holdsAll_distinct (qs : List Query) : holdsAll ts (distinct qs) = holdsAll ts qs := by
  rw [Bool.eq_iff_iff, holdsAll_iff, holdsAll_iff]
  simp only [mem_distinct]

theorem holdsAny_distinct (qs : List Query) : holdsAny ts (distinct qs) = holdsAny ts qs := by
  rw [Bool.eq_iff_iff, holdsAny_iff, holdsAny_iff]
  simp only [mem_distinct]

/-- However it is simplified, a conjunction holds if all of its parts do. -/
theorem holds_conjunction (qs : List Query) : holds ts (conjunction qs) = holdsAll ts qs := by
  unfold conjunction
  split
  · next hnone =>
    obtain ⟨q, hq, hq'⟩ := List.any_eq_true.mp hnone
    have hfalse : ¬holdsAll ts qs = true := fun h => by
      have htrue := holdsAll_iff.mp h q hq
      rw [holds_of_isNone ts hq'] at htrue
      cases htrue
    rw [holds, Bool.eq_false_iff.mpr hfalse]
  · rw [← holdsAll_flatMap_conjuncts, ← holdsAll_distinct]
    split
    · next h => rw [h]; rfl
    · next q h => rw [h, holdsAll, holdsAll, Bool.and_true]
    · rw [holds]

theorem holds_disjunction (qs : List Query) : holds ts (disjunction qs) = holdsAny ts qs := by
  unfold disjunction
  split
  · next hall =>
    obtain ⟨q, hq, hq'⟩ := List.any_eq_true.mp hall
    rw [holds, holdsAny_iff.mpr ⟨q, hq, holds_of_isAll ts hq'⟩]
  · rw [← holdsAny_flatMap_disjuncts, ← holdsAny_distinct]
    split
    · next h => rw [h]; rfl
    · next q h => rw [h, holdsAny, holdsAny, Bool.or_false]
    · rw [holds]

mutual

/-- Simplifying does not change which values pass. -/
theorem holds_simplify : (q : Query) → holds ts (simplify q) = holds ts q
  | all => rfl
  | none => rfl
  | trigram _ => rfl
  | and subs => by rw [simplify, holds_conjunction, holdsAll_simplifyAll subs, holds]
  | or subs => by rw [simplify, holds_disjunction, holdsAny_simplifyAll subs, holds]

theorem holdsAll_simplifyAll : (qs : List Query) → holdsAll ts (simplifyAll qs) = holdsAll ts qs
  | [] => rfl
  | q :: qs => by rw [simplifyAll, holdsAll, holds_simplify q, holdsAll_simplifyAll qs, holdsAll]

theorem holdsAny_simplifyAll : (qs : List Query) → holdsAny ts (simplifyAll qs) = holdsAny ts qs
  | [] => rfl
  | q :: qs => by rw [simplifyAll, holdsAny, holds_simplify q, holdsAny_simplifyAll qs, holdsAny]

end

/-- The condition of a string asks for all of its windows. -/
theorem holds_ofLiteral (value : Bytes) :
    holds ts (ofLiteral value) = true ↔ windows value ⊆ ts := by
  rw [ofLiteral, holds_simplify, holds, holdsAll_iff]
  simp only [List.mem_filterMap, Bytes.mem_sorted, List.mem_map]
  constructor
  · intro h t ht
    have hq := h (.trigram t) ⟨t.toBytes, ⟨t, ht, rfl⟩, rfl⟩
    rwa [holds, List.contains_iff_mem] at hq
  · rintro h q ⟨_, ⟨t, ht, rfl⟩, hq⟩
    obtain rfl : trigram t = q := Option.some.inj hq
    rw [holds, List.contains_iff_mem]
    exact h ht

end Query

end InvertedIndex.Trigram
