import InvertedIndex.Pattern.Tree.Reach
import InvertedIndex.Proofs.Utf8

namespace InvertedIndex.Pattern

/-- `n` steps of a relation, one behind the other. -/
def Chain (R : Nat → Nat → Prop) : Nat → Nat → Nat → Prop
  | 0, i, j => i = j
  | n + 1, i, j => ∃ k, R i k ∧ Chain R n k j

theorem chain_add {R : Nat → Nat → Prop} {m n i j k : Nat} (hm : Chain R m i j)
    (hn : Chain R n j k) : Chain R (m + n) i k := by
  induction m generalizing i with
  | zero =>
    obtain rfl : i = j := hm
    rwa [Nat.zero_add]
  | succ m ih =>
    obtain ⟨l, hl, hm⟩ := hm
    rw [Nat.succ_add]
    exact ⟨l, hl, ih hm⟩

theorem le_of_chain {R : Nat → Nat → Prop} (hR : ∀ i j, R i j → i ≤ j) {n i j : Nat}
    (h : Chain R n i j) : i ≤ j := by
  induction n generalizing i with
  | zero => exact Nat.le_of_eq h
  | succ n ih =>
    obtain ⟨k, hk, hrest⟩ := h
    exact Nat.le_trans (hR i k hk) (ih hrest)

namespace Tree

mutual

/-- The tree matches what stands between two places. A repetition that asks for more than it allows
takes what it asks for. -/
def Spans (s : Subject) : Tree → Nat → Nat → Prop
  | empty, i, j => i = j
  | literal xs, i, j => xs <+: s.text.drop i ∧ j = i + xs.length
  | chars set, i, j => ∃ c : Char, set.contains c.toNat = true ∧
      Utf8.encode [c] <+: s.text.drop i ∧ j = i + (Utf8.encode [c]).length
  | bytes set, i, j => ∃ b : UInt8, set.contains b.toNat = true ∧ s.text[i]? = some b ∧ j = i + 1
  | look k, i, j => k.holds s i = true ∧ i = j
  | repetition min max _ sub, i, j =>
    ∃ n, min ≤ n ∧ (∀ m, max = some m → n ≤ min + (m - min)) ∧ Chain (Spans s sub) n i j
  | capture _ _ sub, i, j => Spans s sub i j
  | concat subs, i, j => SpansThrough s subs i j
  | alternation subs, i, j => SpansAny s subs i j

/-- The trees match one behind the other. -/
def SpansThrough (s : Subject) : List Tree → Nat → Nat → Prop
  | [], i, j => i = j
  | t :: ts, i, j => ∃ k, Spans s t i k ∧ SpansThrough s ts k j

/-- One of the trees matches. -/
def SpansAny (s : Subject) : List Tree → Nat → Nat → Prop
  | [], _, _ => False
  | t :: ts, i, j => Spans s t i j ∨ SpansAny s ts i j

end

end Tree

namespace Step

/-- Whatever its trail, a step leads only where the relation does. -/
def Within (R : Nat → Nat → Prop) (f : Step) : Prop :=
  ∀ trail ps j, j ∈ (f trail ps).1 → ∃ i ∈ ps, R i j

variable {R S : Nat → Nat → Prop} {f g : Step}

theorem Within.mono (h : Within R f) (hRS : ∀ i j, R i j → S i j) : Within S f := by
  intro trail ps j hj
  obtain ⟨i, hi, hR⟩ := h trail ps j hj
  exact ⟨i, hi, hRS i j hR⟩

theorem within_stay : Within Eq stay := fun _ _ j hj => ⟨j, hj, rfl⟩

theorem within_ofPartial {p : Nat → Option Nat} : Within (fun i j => p i = some j) (ofPartial p) :=
  fun _ _ _ hj => List.mem_filterMap.mp hj

theorem within_guard {test : Nat → Bool} : Within (fun i j => test i = true ∧ i = j) (guard test) := by
  intro trail ps j hj
  obtain ⟨hmem, htest⟩ := List.mem_filter.mp hj
  exact ⟨j, hmem, htest, rfl⟩

/-- Where one step and then another one lead, the composition of their relations leads. -/
theorem within_andThen (hf : Within R f) (hg : Within S g) :
    Within (fun i j => ∃ k, R i k ∧ S k j) (andThen f g) := by
  rintro ⟨seen, parts⟩ ps j hj
  obtain ⟨k, hk, hS⟩ := hg _ _ j hj
  obtain ⟨i, hi, hR⟩ := hf _ _ k hk
  exact ⟨i, hi, k, hR, hS⟩

theorem within_orElse (hf : Within R f) (hg : Within S g) :
    Within (fun i j => R i j ∨ S i j) (orElse f g) := by
  rintro ⟨seen, parts⟩ ps j hj
  rcases List.mem_append.mp hj with hj | hj
  · obtain ⟨i, hi, hR⟩ := hf _ _ j hj
    exact ⟨i, hi, .inl hR⟩
  · obtain ⟨i, hi, hS⟩ := hg _ _ j hj
    exact ⟨i, hi, .inr hS⟩

theorem mem_foldl_visit_iff {ps : List Nat} {v : Std.HashSet Nat × List Nat} {j : Nat} :
    j ∈ (ps.foldl visit v).2 ↔ j ∈ v.2 ∨ j ∈ ps ∧ v.1.contains j = false := by
  induction ps generalizing v with
  | nil => simp
  | cons p ps ih =>
    rw [List.foldl_cons, ih, contains_visit, Bool.or_eq_false_iff, beq_eq_false_iff_ne, List.mem_cons]
    have hcomm : j = p ↔ p = j := eq_comm
    rw [hcomm]
    unfold visit
    by_cases hpj : p = j
    · rw [← hpj]
      split
      · next hp => simp [hp]
      · next hp => simp [Bool.eq_false_iff.mpr hp]
    · split
      · simp [hpj]
      · simp [hpj, hcomm]

/-- What is new was not in the set. -/
theorem mem_fresh_iff {seen : Std.HashSet Nat} {ps : List Nat} {j : Nat} :
    j ∈ (fresh seen ps).2 ↔ j ∈ ps ∧ seen.contains j = false := by
  rw [fresh, mem_foldl_visit_iff]
  simp

theorem mem_of_mem_fresh {seen : Std.HashSet Nat} {ps : List Nat} {j : Nat}
    (h : j ∈ (fresh seen ps).2) : j ∈ ps := (mem_fresh_iff.mp h).1

theorem mem_of_fresh_eq {seen seen' : Std.HashSet Nat} {ps new : List Nat} {j : Nat}
    (h : fresh seen ps = (seen', new)) (hj : j ∈ new) : j ∈ ps := by
  apply mem_of_mem_fresh
  rw [h]
  exact hj

theorem within_distinct (hf : Within R f) : Within R (distinct f) :=
  fun trail ps j hj => hf trail ps j (mem_of_mem_fresh hj)

theorem exists_of_mem_take (hf : Within R f) {row : Row} {ps : List Nat} {j : Nat}
    (h : j ∈ (row.take f ps).1) : ∃ i ∈ ps, R i j := by
  obtain ⟨used, unused⟩ := row
  cases unused with
  | nil => exact hf _ _ j h
  | cons trail unused => exact hf _ _ j h

theorem exists_of_mem_timesIn (hf : Within R f) {n : Nat} {row : Row} {ps : List Nat} {j : Nat}
    (h : j ∈ (timesIn f n row ps).1) : ∃ i ∈ ps, Chain R n i j := by
  induction n generalizing row ps with
  | zero => exact ⟨j, h, rfl⟩
  | succ n ih =>
    cases ps with
    | nil => simp [timesIn] at h
    | cons p ps =>
      obtain ⟨k, hk, hchain⟩ := ih h
      obtain ⟨i, hi, hR⟩ := exists_of_mem_take hf hk
      exact ⟨i, hi, k, hR, hchain⟩

theorem within_times (hf : Within R f) (n : Nat) : Within (Chain R n) (times f n) := by
  rintro ⟨seen, parts⟩ ps j hj
  exact exists_of_mem_timesIn hf hj

/-- What is found was found before, or is reached from the places that were found last. -/
theorem mem_upToIn (hf : Within R f) {n : Nat} {row : Row} {seen : Std.HashSet Nat}
    {found latest : List Nat} {j : Nat} (h : j ∈ (upToIn f n row seen found latest).1) :
    j ∈ found ∨ ∃ i ∈ latest, ∃ m ≤ n, Chain R m i j := by
  induction n generalizing row seen found latest with
  | zero => exact .inl h
  | succ n ih =>
    rw [upToIn] at h
    rcases htake : row.take f latest with ⟨qs, row'⟩
    rw [htake] at h
    dsimp only at h
    split at h
    next seen' hfresh => exact .inl h
    next seen' new _ hfresh =>
      have hnew (k : Nat) (hk : k ∈ new) : ∃ i ∈ latest, R i k := by
        have hqs : k ∈ (row.take f latest).1 := by
          rw [htake]
          exact mem_of_fresh_eq hfresh hk
        exact exists_of_mem_take hf hqs
      rcases ih h with h | ⟨k, hk, m, hm, hchain⟩
      · rcases List.mem_append.mp h with h | h
        · obtain ⟨i, hi, hR⟩ := hnew j h
          exact .inr ⟨i, hi, 1, by omega, j, hR, rfl⟩
        · exact .inl h
      · obtain ⟨i, hi, hR⟩ := hnew k hk
        exact .inr ⟨i, hi, m + 1, by omega, k, hR, hchain⟩

theorem within_upTo (hf : Within R f) (n : Nat) :
    Within (fun i j => ∃ m ≤ n, Chain R m i j) (upTo f n) := by
  rintro ⟨seen, parts⟩ ps j hj
  rcases mem_upToIn hf hj with h | ⟨i, hi, m, hm, hchain⟩
  · exact ⟨j, mem_of_mem_fresh h, 0, by omega, rfl⟩
  · exact ⟨i, mem_of_mem_fresh hi, m, hm, hchain⟩

theorem mem_anyTimesIn (hf : Within R f) {n : Nat} {trail : Trail} {seen : Std.HashSet Nat}
    {found latest : List Nat} {j : Nat} (h : j ∈ (anyTimesIn f n trail seen found latest).1) :
    j ∈ found ∨ ∃ i ∈ latest, ∃ m, Chain R m i j := by
  induction n generalizing trail seen found latest with
  | zero => exact .inl h
  | succ n ih =>
    rw [anyTimesIn] at h
    rcases hstep : f trail latest with ⟨qs, trail'⟩
    rw [hstep] at h
    dsimp only at h
    split at h
    next seen' hfresh => exact .inl h
    next seen' new _ hfresh =>
      have hnew (k : Nat) (hk : k ∈ new) : ∃ i ∈ latest, R i k := by
        have hqs : k ∈ (f trail latest).1 := by
          rw [hstep]
          exact mem_of_fresh_eq hfresh hk
        exact hf trail latest k hqs
      rcases ih h with h | ⟨k, hk, m, hchain⟩
      · rcases List.mem_append.mp h with h | h
        · obtain ⟨i, hi, hR⟩ := hnew j h
          exact .inr ⟨i, hi, 1, j, hR, rfl⟩
        · exact .inl h
      · obtain ⟨i, hi, hR⟩ := hnew k hk
        exact .inr ⟨i, hi, m + 1, k, hR, hchain⟩

theorem within_anyTimes (hf : Within R f) (n : Nat) :
    Within (fun i j => ∃ m, Chain R m i j) (anyTimes f n) := by
  rintro ⟨seen, parts⟩ ps j hj
  rw [anyTimes] at hj
  split at hj
  next seen' hfresh => simp at hj
  next seen' new _ hfresh =>
    rcases mem_anyTimesIn hf hj with h | ⟨i, hi, m, hchain⟩
    · exact ⟨j, mem_of_fresh_eq hfresh h, 0, rfl⟩
    · exact ⟨i, mem_of_fresh_eq hfresh hi, m, hchain⟩

end Step

namespace Tree

theorem literal_of_literalEnd? {s : Subject} {xs : Bytes} {i j : Nat}
    (h : literalEnd? s xs i = some j) : Spans s (.literal xs) i j := by
  unfold literalEnd? at h
  split at h
  · next hxs =>
    rw [s.rest_eq] at hxs
    exact ⟨List.isPrefixOf_iff_prefix.mp hxs, (Option.some.inj h).symm⟩
  · cases h

theorem chars_of_charEnd? {s : Subject} {set : Ranges} {i j : Nat}
    (h : charEnd? s set i = some j) : Spans s (.chars set) i j := by
  unfold charEnd? at h
  split at h
  · next c width hhead =>
    obtain ⟨hwidth, rest, hrest⟩ := Utf8.eq_append_of_head? hhead
    split at h
    · next hset =>
      have hc : Utf8.encode [c] = String.utf8EncodeChar c := by simp
      refine ⟨c, hset, ?_, ?_⟩
      · rw [hc, ← s.rest_eq, hrest]
        exact List.prefix_append _ _
      · rw [hc, ← hwidth]
        exact (Option.some.inj h).symm
    · cases h
  · cases h

theorem bytes_of_byteEnd? {s : Subject} {set : Ranges} {i j : Nat}
    (h : byteEnd? s set i = some j) : Spans s (.bytes set) i j := by
  unfold byteEnd? at h
  split at h
  · next b hb =>
    split at h
    · next hset => exact ⟨b, hset, by rw [← s.byteAt?_eq, hb], (Option.some.inj h).symm⟩
    · cases h
  · cases h

/-- A repetition is reached through a chain that is long enough and not too long. -/
theorem within_repeatStep {R : Nat → Nat → Prop} {f : Step} (s : Subject) (min : Nat)
    (max : Option Nat) (hf : f.Within R) :
    (repeatStep s min max f).Within fun i j =>
      ∃ n, min ≤ n ∧ (∀ m, max = some m → n ≤ min + (m - min)) ∧ Chain R n i j := by
  unfold repeatStep
  cases max with
  | none =>
    refine (Step.within_andThen (Step.within_times hf min) (Step.within_anyTimes hf _)).mono ?_
    rintro i j ⟨k, hmin, m, hrest⟩
    exact ⟨min + m, by omega, by simp, chain_add hmin hrest⟩
  | some max =>
    refine (Step.within_andThen (Step.within_times hf min) (Step.within_upTo hf _)).mono ?_
    rintro i j ⟨k, hmin, m, hm, hrest⟩
    refine ⟨min + m, by omega, fun l hl => ?_, chain_add hmin hrest⟩
    have hl := Option.some.inj hl
    omega

mutual

/-- Every place that the matcher reaches ends a match. -/
theorem within_walk (s : Subject) : (t : Tree) → Step.Within (Spans s t) (walk s t)
  | empty => by
    intro trail ps j hj
    rw [walk] at hj
    exact Step.within_stay trail ps j hj
  | literal xs => by
    intro trail ps j hj
    rw [walk] at hj
    exact (Step.within_ofPartial.mono fun _ _ => literal_of_literalEnd?) trail ps j hj
  | chars set => by
    intro trail ps j hj
    rw [walk] at hj
    exact (Step.within_ofPartial.mono fun _ _ => chars_of_charEnd?) trail ps j hj
  | bytes set => by
    intro trail ps j hj
    rw [walk] at hj
    exact (Step.within_ofPartial.mono fun _ _ => bytes_of_byteEnd?) trail ps j hj
  | look k => by
    intro trail ps j hj
    rw [walk] at hj
    exact Step.within_guard trail ps j hj
  | repetition min max _ sub => by
    intro trail ps j hj
    rw [walk] at hj
    exact within_repeatStep s min max (within_walk s sub) trail ps j hj
  | capture _ _ sub => by
    intro trail ps j hj
    rw [walk] at hj
    exact within_walk s sub trail ps j hj
  | concat subs => by
    intro trail ps j hj
    rw [walk] at hj
    exact within_walkThrough s subs trail ps j hj
  | alternation subs => by
    intro trail ps j hj
    rw [walk] at hj
    exact Step.within_distinct (within_walkAny s subs) trail ps j hj

theorem within_walkThrough (s : Subject) :
    (ts : List Tree) → Step.Within (SpansThrough s ts) (walkThrough s ts)
  | [] => by
    intro trail ps j hj
    rw [walkThrough] at hj
    exact Step.within_stay trail ps j hj
  | t :: ts => by
    intro trail ps j hj
    rw [walkThrough] at hj
    exact Step.within_andThen (within_walk s t) (within_walkThrough s ts) trail ps j hj

theorem within_walkAny (s : Subject) :
    (ts : List Tree) → Step.Within (SpansAny s ts) (walkAny s ts)
  | [] => by
    intro trail ps j hj
    rw [walkAny] at hj
    simp at hj
  | t :: ts => by
    intro trail ps j hj
    rw [walkAny] at hj
    exact Step.within_orElse (within_walk s t) (within_walkAny s ts) trail ps j hj

end

/-- A place that is reached ends a match that starts at one of the given places. -/
theorem spans_of_mem_reach {s : Subject} {t : Tree} {ps : List Nat} {j : Nat}
    (h : j ∈ reach s t ps) : ∃ i ∈ ps, Spans s t i j := within_walk s t .blank ps j h

/-- What the matcher takes for a whole match is one. -/
theorem spans_of_isWholeMatch {t : Tree} {text : Bytes} (h : t.isWholeMatch text = true) :
    Spans (.ofText text) t 0 text.length := by
  obtain ⟨i, hi, hspan⟩ := spans_of_mem_reach (List.contains_iff_mem.mp h)
  obtain rfl : i = 0 := List.mem_singleton.mp hi
  exact hspan

theorem spans_of_isMatch {t : Tree} {text : Bytes} (h : t.isMatch text = true) :
    ∃ i j, Spans (.ofText text) t i j := by
  rw [isMatch, Bool.not_eq_true', List.isEmpty_eq_false_iff_exists_mem] at h
  obtain ⟨j, hj⟩ := h
  obtain ⟨i, _, hspan⟩ := spans_of_mem_reach hj
  exact ⟨i, j, hspan⟩

mutual

/-- A match does not end before it starts. -/
theorem le_of_spans (s : Subject) : (t : Tree) → {i j : Nat} → Spans s t i j → i ≤ j
  | empty, _, _, h => Nat.le_of_eq h
  | literal xs, i, j, h => by
    obtain ⟨_, rfl⟩ := h
    exact Nat.le_add_right i _
  | chars set, i, j, h => by
    obtain ⟨_, _, _, rfl⟩ := h
    exact Nat.le_add_right i _
  | bytes set, i, j, h => by
    obtain ⟨_, _, _, rfl⟩ := h
    exact Nat.le_succ i
  | look _, _, _, h => Nat.le_of_eq h.2
  | repetition min max _ sub, i, j, h => by
    obtain ⟨n, _, _, hchain⟩ := h
    exact le_of_chain (fun _ _ => le_of_spans s sub) hchain
  | capture _ _ sub, _, _, h => le_of_spans s sub h
  | concat subs, _, _, h => le_of_spansThrough s subs h
  | alternation subs, _, _, h => le_of_spansAny s subs h

theorem le_of_spansThrough (s : Subject) :
    (ts : List Tree) → {i j : Nat} → SpansThrough s ts i j → i ≤ j
  | [], _, _, h => Nat.le_of_eq h
  | t :: ts, _, _, h => by
    obtain ⟨k, hk, hrest⟩ := h
    exact Nat.le_trans (le_of_spans s t hk) (le_of_spansThrough s ts hrest)

theorem le_of_spansAny (s : Subject) :
    (ts : List Tree) → {i j : Nat} → SpansAny s ts i j → i ≤ j
  | [], _, _, h => h.elim
  | t :: ts, _, _, h => h.elim (le_of_spans s t) (le_of_spansAny s ts)

end

/-- The tree can match the string, in some text and at some place of it. -/
def Matches (t : Tree) (x : Bytes) : Prop :=
  ∃ s i j, Spans s t i j ∧ s.slice i j = x

end Tree

namespace Subject

theorem slice_self (s : Subject) (i : Nat) : s.slice i i = [] := by
  simp [slice]

theorem slice_append (s : Subject) {i j k : Nat} (hij : i ≤ j) (hjk : j ≤ k) :
    s.slice i j ++ s.slice j k = s.slice i k := by
  have hdrop : s.text.drop j = (s.text.drop i).drop (j - i) := by
    rw [List.drop_drop]
    congr 1
    omega
  have hlen : k - i = (j - i) + (k - j) := by omega
  simp only [slice, s.rest_eq, hdrop, hlen, List.take_add]

theorem slice_eq_of_prefix (s : Subject) {xs : Bytes} {i : Nat} (h : xs <+: s.text.drop i) :
    s.slice i (i + xs.length) = xs := by
  obtain ⟨rest, hrest⟩ := h
  rw [slice, s.rest_eq, ← hrest, Nat.add_sub_cancel_left, List.take_left]

end Subject

namespace Tree

/-- A concatenation can be parted anywhere. -/
theorem spansThrough_append (s : Subject) (ts us : List Tree) (i j : Nat) :
    SpansThrough s (ts ++ us) i j ↔ ∃ k, SpansThrough s ts i k ∧ SpansThrough s us k j := by
  induction ts generalizing i with
  | nil => simp [SpansThrough]
  | cons t ts ih =>
    simp only [List.cons_append, SpansThrough, ih]
    constructor
    · rintro ⟨l, hl, k, hk, hj⟩
      exact ⟨k, ⟨l, hl, hk⟩, hj⟩
    · rintro ⟨k, ⟨l, hl, hk⟩, hj⟩
      exact ⟨l, hl, k, hk, hj⟩

theorem spansThrough_singleton (s : Subject) (t : Tree) (i j : Nat) :
    SpansThrough s [t] i j ↔ Spans s t i j := by
  simp [SpansThrough]

theorem spansThrough_factors (s : Subject) (t : Tree) (i j : Nat) :
    SpansThrough s t.factors i j ↔ Spans s t i j := by
  cases t with
  | empty => simp [factors, SpansThrough, Spans]
  | concat subs => simp only [factors, Spans]
  | _ => exact spansThrough_singleton s _ i j

theorem spansThrough_flatMap_factors (s : Subject) (ts : List Tree) (i j : Nat) :
    SpansThrough s (ts.flatMap factors) i j ↔ SpansThrough s ts i j := by
  induction ts generalizing i with
  | nil => rfl
  | cons t ts ih =>
    simp only [List.flatMap_cons, spansThrough_append, spansThrough_factors, ih, SpansThrough]

theorem spans_literal_append (s : Subject) (xs ys : Bytes) (i j : Nat) :
    Spans s (.literal (xs ++ ys)) i j ↔
      ∃ k, Spans s (.literal xs) i k ∧ Spans s (.literal ys) k j := by
  simp only [Spans]
  constructor
  · rintro ⟨⟨rest, hrest⟩, rfl⟩
    rw [List.append_assoc] at hrest
    refine ⟨i + xs.length, ⟨⟨ys ++ rest, hrest⟩, rfl⟩, ⟨rest, ?_⟩, by simp [Nat.add_assoc]⟩
    rw [← List.drop_drop, ← hrest, List.drop_left]
  · rintro ⟨_, ⟨⟨rest, hrest⟩, rfl⟩, ⟨rest', hrest'⟩, rfl⟩
    refine ⟨⟨rest', ?_⟩, by simp [Nat.add_assoc]⟩
    rw [← List.drop_drop, ← hrest, List.drop_left] at hrest'
    rw [← hrest, ← hrest', List.append_assoc]

/-- Joining adjacent literals does not change what is spanned. -/
theorem spansThrough_fuse (s : Subject) (ts : List Tree) (i j : Nat) :
    SpansThrough s (fuse ts) i j ↔ SpansThrough s ts i j := by
  induction ts generalizing i with
  | nil => rfl
  | cons t ts ih =>
    unfold fuse
    split
    · next xs ys rest hfuse =>
      simp only [SpansThrough, spans_literal_append, ← ih, hfuse]
      constructor
      · rintro ⟨k, ⟨l, hl, hk⟩, hj⟩
        exact ⟨l, hl, k, hk, hj⟩
      · rintro ⟨l, hl, k, hk, hj⟩
        exact ⟨k, ⟨l, hl, hk⟩, hj⟩
    · simp only [SpansThrough, ih]

/-- Simplifying a concatenation does not change what it matches. -/
theorem spans_ofFactors (s : Subject) (ts : List Tree) (i j : Nat) :
    Spans s (ofFactors ts) i j ↔ SpansThrough s ts i j := by
  rw [← spansThrough_flatMap_factors, ← spansThrough_fuse, ofFactors]
  split
  · next h => simp only [h, Spans, SpansThrough]
  · next t h => rw [h, spansThrough_singleton]
  · simp only [Spans]

end Tree

end InvertedIndex.Pattern
