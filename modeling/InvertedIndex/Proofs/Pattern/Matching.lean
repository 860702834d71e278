import InvertedIndex.Proofs.Pattern.Coverage.Repetition

namespace InvertedIndex.Pattern

theorem exists_of_chain_add {R : Nat → Nat → Prop} {m n i k : Nat} (h : Chain R (m + n) i k) :
    ∃ j, Chain R m i j ∧ Chain R n j k := by
  induction m generalizing i with
  | zero =>
    rw [Nat.zero_add] at h
    exact ⟨i, rfl, h⟩
  | succ m ih =>
    rw [Nat.succ_add] at h
    obtain ⟨l, hl, hrest⟩ := h
    obtain ⟨j, hm, hn⟩ := ih hrest
    exact ⟨j, ⟨l, hl, hm⟩, hn⟩

namespace Tree

mutual

/-- A match does not go beyond the end of the text. -/
theorem bounded_spans (s : Subject) : (t : Tree) → Step.Bounded s.length (Spans s t)
  | empty => by
    intro i j h hi
    obtain rfl : i = j := h
    exact hi
  | literal xs => by
    intro i j h hi
    obtain ⟨hstart, rfl⟩ := h
    have hlen := hstart.length_le
    rw [List.length_drop] at hlen
    rw [s.length_eq] at hi ⊢
    omega
  | chars set => by
    intro i j h hi
    obtain ⟨c, -, hstart, rfl⟩ := h
    have hlen := hstart.length_le
    rw [List.length_drop] at hlen
    rw [s.length_eq] at hi ⊢
    omega
  | bytes set => by
    intro i j h _
    obtain ⟨b, -, hb, rfl⟩ := h
    obtain ⟨hlt, -⟩ := List.getElem?_eq_some_iff.mp hb
    rw [s.length_eq]
    exact hlt
  | look k => by
    intro i j h hi
    obtain ⟨-, rfl⟩ := h
    exact hi
  | repetition min max _ sub => by
    intro i j h
    obtain ⟨n, -, -, hchain⟩ := h
    exact Step.bounded_chain (bounded_spans s sub) n i j hchain
  | capture _ _ sub => bounded_spans s sub
  | concat subs => bounded_spansThrough s subs
  | alternation subs => bounded_spansAny s subs

theorem bounded_spansThrough (s : Subject) :
    (ts : List Tree) → Step.Bounded s.length (SpansThrough s ts)
  | [] => by
    intro i j h hi
    obtain rfl : i = j := h
    exact hi
  | t :: ts => by
    intro i j h hi
    obtain ⟨k, hk, hrest⟩ := h
    exact bounded_spansThrough s ts k j hrest (bounded_spans s t i k hk hi)

theorem bounded_spansAny (s : Subject) :
    (ts : List Tree) → Step.Bounded s.length (SpansAny s ts)
  | [] => by
    intro i j h
    exact h.elim
  | t :: ts => by
    intro i j h
    exact h.elim (bounded_spans s t i j) (bounded_spansAny s ts i j)

end

theorem literalEnd?_eq_some_iff {s : Subject} {xs : Bytes} {i j : Nat} :
    literalEnd? s xs i = some j ↔ Spans s (.literal xs) i j := by
  refine ⟨literal_of_literalEnd?, ?_⟩
  intro h
  obtain ⟨hstart, rfl⟩ := h
  unfold literalEnd?
  rw [s.rest_eq, if_pos (List.isPrefixOf_iff_prefix.mpr hstart)]

theorem charEnd?_eq_some_iff {s : Subject} {set : Ranges} {i j : Nat} :
    charEnd? s set i = some j ↔ Spans s (.chars set) i j := by
  refine ⟨chars_of_charEnd?, ?_⟩
  intro h
  obtain ⟨c, hset, ⟨rest, hrest⟩, rfl⟩ := h
  have hc : Utf8.encode [c] = String.utf8EncodeChar c := by simp
  rw [hc] at hrest ⊢
  unfold charEnd?
  rw [s.rest_eq, ← hrest, Utf8.head?_encodeChar_append]
  exact if_pos hset

theorem byteEnd?_eq_some_iff {s : Subject} {set : Ranges} {i j : Nat} :
    byteEnd? s set i = some j ↔ Spans s (.bytes set) i j := by
  refine ⟨bytes_of_byteEnd?, ?_⟩
  intro h
  obtain ⟨b, hset, hb, rfl⟩ := h
  unfold byteEnd?
  rw [s.byteAt?_eq, hb]
  exact if_pos hset

/-- Repetitions reach the ends of all chains of matches that are long enough and not too long. -/
theorem covers_repeatStep {R : Nat → Nat → Prop} {f : Step} (s : Subject) (min : Nat)
    (max : Option Nat) (hf : f.Covers s.length R) (hwithin : f.Within R)
    (hbounded : Step.Bounded s.length R) :
    (repeatStep s min max f).Covers s.length fun i j =>
      ∃ n, min ≤ n ∧ (∀ m, max = some m → n ≤ min + (m - min)) ∧ Chain R n i j := by
  have hmin := Step.covers_times hf hwithin hbounded min
  have hbound := Step.bounded_chain hbounded min
  unfold repeatStep
  cases max with
  | none =>
    have hrest := Step.covers_anyTimes hf hwithin hbounded
    refine (Step.covers_andThen hmin hrest (Step.within_times hwithin min) hbound).mono ?_
    intro i j h
    obtain ⟨n, hn, -, hchain⟩ := h
    rw [← Nat.add_sub_cancel' hn] at hchain
    obtain ⟨k, hk, hkj⟩ := exists_of_chain_add hchain
    exact ⟨k, hk, n - min, hkj⟩
  | some max =>
    have hrest := Step.covers_upTo hf hwithin hbounded (max - min)
    refine (Step.covers_andThen hmin hrest (Step.within_times hwithin min) hbound).mono ?_
    intro i j h
    obtain ⟨n, hn, hmax, hchain⟩ := h
    have hle := hmax max rfl
    rw [← Nat.add_sub_cancel' hn] at hchain
    obtain ⟨k, hk, hkj⟩ := exists_of_chain_add hchain
    exact ⟨k, hk, n - min, by omega, hkj⟩

mutual

/-- The matcher reaches the ends of all matches. -/
theorem covers_walk (s : Subject) : (t : Tree) → Step.Covers s.length (Spans s t) (walk s t)
  | empty => by
    have hwalk : walk s empty = Step.stay := by
      funext trail ps
      rw [walk]
    rw [hwalk]
    exact Step.covers_stay
  | literal xs => by
    have hwalk : walk s (literal xs) = Step.ofPartial (literalEnd? s xs) := by
      funext trail ps
      rw [walk]
    rw [hwalk]
    exact Step.covers_ofPartial.mono fun _ _ => literalEnd?_eq_some_iff.mpr
  | chars set => by
    have hwalk : walk s (chars set) = Step.ofPartial (charEnd? s set) := by
      funext trail ps
      rw [walk]
    rw [hwalk]
    exact Step.covers_ofPartial.mono fun _ _ => charEnd?_eq_some_iff.mpr
  | bytes set => by
    have hwalk : walk s (bytes set) = Step.ofPartial (byteEnd? s set) := by
      funext trail ps
      rw [walk]
    rw [hwalk]
    exact Step.covers_ofPartial.mono fun _ _ => byteEnd?_eq_some_iff.mpr
  | look k => by
    have hwalk : walk s (look k) = Step.guard (k.holds s) := by
      funext trail ps
      rw [walk]
    rw [hwalk]
    exact Step.covers_guard
  | repetition min max greedy sub => by
    have hwalk : walk s (repetition min max greedy sub) = repeatStep s min max (walk s sub) := by
      funext trail ps
      rw [walk]
    rw [hwalk]
    exact covers_repeatStep s min max (covers_walk s sub) (within_walk s sub) (bounded_spans s sub)
  | capture index name sub => by
    have hwalk : walk s (capture index name sub) = walk s sub := by
      funext trail ps
      rw [walk]
    rw [hwalk]
    exact covers_walk s sub
  | concat subs => by
    have hwalk : walk s (concat subs) = walkThrough s subs := by
      funext trail ps
      rw [walk]
    rw [hwalk]
    exact covers_walkThrough s subs
  | alternation subs => by
    have hwalk : walk s (alternation subs) = Step.distinct (walkAny s subs) := by
      funext trail ps
      rw [walk]
    rw [hwalk]
    exact Step.covers_distinct (covers_walkAny s subs)

theorem covers_walkThrough (s : Subject) :
    (ts : List Tree) → Step.Covers s.length (SpansThrough s ts) (walkThrough s ts)
  | [] => by
    have hwalk : walkThrough s [] = Step.stay := by
      funext trail ps
      rw [walkThrough]
    rw [hwalk]
    exact Step.covers_stay
  | t :: ts => by
    have hwalk : walkThrough s (t :: ts) = Step.andThen (walk s t) (walkThrough s ts) := by
      funext trail ps
      rw [walkThrough]
    rw [hwalk]
    exact Step.covers_andThen (covers_walk s t) (covers_walkThrough s ts) (within_walk s t)
      (bounded_spans s t)

theorem covers_walkAny (s : Subject) :
    (ts : List Tree) → Step.Covers s.length (SpansAny s ts) (walkAny s ts)
  | [] => by
    intro trail asked told _ _ i _ j h
    exact h.elim
  | t :: ts => by
    have hwalk : walkAny s (t :: ts) = Step.orElse (walk s t) (walkAny s ts) := by
      funext trail ps
      rw [walkAny]
    rw [hwalk]
    exact Step.covers_orElse (covers_walk s t) (covers_walkAny s ts)

end

/-- From places in the text the matcher reaches the ends of all matches, and nothing else. -/
theorem mem_reach_iff {s : Subject} {t : Tree} {ps : List Nat} (hps : ∀ i ∈ ps, i ≤ s.length)
    {j : Nat} : j ∈ reach s t ps ↔ ∃ i ∈ ps, Spans s t i j := by
  refine ⟨spans_of_mem_reach, ?_⟩
  intro h
  obtain ⟨i, hi, hspan⟩ := h
  exact (covers_walk s t).mem_of_blank hps hi hspan

/-- The matcher takes a text for a whole match just if the tree spans it. -/
theorem isWholeMatch_iff {t : Tree} {text : Bytes} :
    t.isWholeMatch text = true ↔ Spans (.ofText text) t 0 text.length := by
  refine ⟨spans_of_isWholeMatch, ?_⟩
  intro h
  rw [isWholeMatch, List.contains_iff_mem, mem_reach_iff (by simp)]
  exact ⟨0, by simp, h⟩

/-- The matcher finds a match just if the tree spans some part of the text. -/
theorem isMatch_iff {t : Tree} {text : Bytes} :
    t.isMatch text = true ↔ ∃ i ≤ text.length, ∃ j, Spans (.ofText text) t i j := by
  have hplaces : ∀ i, i ∈ (Subject.ofText text).places ↔ i ≤ text.length := by
    intro i
    exact List.mem_range.trans Nat.lt_succ_iff
  rw [isMatch, Bool.not_eq_true', List.isEmpty_eq_false_iff_exists_mem]
  have hreach : ∀ j, j ∈ reach (.ofText text) t (Subject.ofText text).places ↔
      ∃ i ∈ (Subject.ofText text).places, Spans (.ofText text) t i j :=
    fun _ => mem_reach_iff fun i => (hplaces i).mp
  simp only [hreach, hplaces]
  constructor
  · intro h
    obtain ⟨j, i, hi, hspan⟩ := h
    exact ⟨i, hi, j, hspan⟩
  · intro h
    obtain ⟨i, hi, j, hspan⟩ := h
    exact ⟨j, i, hi, hspan⟩

end Tree

end InvertedIndex.Pattern
