import InvertedIndex.Proofs.Pattern.Spans
import InvertedIndex.Proofs.Trigram.Query
import InvertedIndex.Trigram.Analysis

namespace InvertedIndex

theorem Bytes.length_insert_le (x : Bytes) (ys : List Bytes) :
    (Bytes.insert x ys).length ≤ ys.length + 1 := by
  induction ys with
  | nil => exact Nat.le_refl _
  | cons y ys ih =>
    rw [Bytes.insert_cons]
    split
    · exact Nat.le_refl _
    · split
      · exact Nat.le_succ _
      · simpa using ih

theorem Bytes.length_sorted_le (xs : List Bytes) : (Bytes.sorted xs).length ≤ xs.length := by
  induction xs with
  | nil => exact Nat.le_refl _
  | cons x xs ih =>
    have h := Bytes.length_insert_le x (Bytes.sorted xs)
    have hcons : Bytes.sorted (x :: xs) = Bytes.insert x (Bytes.sorted xs) := rfl
    rw [hcons, List.length_cons]
    omega

namespace Trigram

namespace Knowledge

/-- The knowledge allows a match to be `x`. -/
def Covers : Knowledge → Bytes → Prop
  | exact strings, x => x ∈ strings
  | inexact query, x => query.holds (windows x) = true

/-- A list of strings is not longer than it may be. -/
def Bounded : Knowledge → Prop
  | exact strings => strings.length ≤ maxStrings
  | inexact _ => True

/-- What is known of a string holds of every value that contains it. -/
theorem holds_toQuery {k : Knowledge} {x y : Bytes} (h : k.Covers x) (hxy : x <:+: y) :
    k.toQuery.holds (windows y) = true := by
  cases k with
  | exact strings =>
    rw [toQuery, Query.holds_simplify, Query.holds, Query.holdsAny_iff]
    exact ⟨_, List.mem_map_of_mem h, (Query.holds_ofLiteral _ x).mpr (windows_subset hxy)⟩
  | inexact query => exact Query.holds_of_subset (windows_subset hxy) query h

theorem covers_emptyString : emptyString.Covers [] := by simp [emptyString, Covers]

theorem covers_both {k l : Knowledge} {x y : Bytes} (hk : k.Covers x) (hl : l.Covers y) :
    (both k l).Covers (x ++ y) := by
  have hkq := holds_toQuery hk (List.prefix_append x y).isInfix
  have hlq := holds_toQuery hl (List.suffix_append x y).isInfix
  simp only [both, Covers, Query.holds_simplify, Query.holds, Query.holdsAll, hkq, hlq,
    Bool.and_self]

theorem covers_concat {k l : Knowledge} {x y : Bytes} (hk : k.Covers x) (hl : l.Covers y) :
    (k.concat l).Covers (x ++ y) := by
  unfold concat
  split
  · split
    · simp only [Covers, Bytes.mem_sorted, List.mem_flatMap, List.mem_map]
      exact ⟨x, hk, y, hl, rfl⟩
    · exact covers_both hk hl
  · exact covers_both hk hl

theorem length_products (xs ys : List Bytes) :
    (xs.flatMap fun x => ys.map (x ++ ·)).length = xs.length * ys.length := by
  induction xs with
  | nil => simp
  | cons x xs ih => simp only [List.flatMap_cons, List.length_append, ih, List.length_map,
      List.length_cons, Nat.succ_mul, Nat.add_comm]

/-- Listed strings are given up before they are too many. -/
theorem bounded_concat (k l : Knowledge) : (k.concat l).Bounded := by
  unfold concat
  split
  · next xs ys =>
    split
    · next h =>
      have hlen := Bytes.length_sorted_le (xs.flatMap fun x => ys.map (x ++ ·))
      rw [length_products] at hlen
      exact Nat.le_trans hlen h
    · trivial
  · trivial

theorem covers_either_left {k : Knowledge} {x : Bytes} (l : Knowledge) (h : k.Covers x) :
    (either k l).Covers x := by
  have hq := holds_toQuery h (List.infix_refl x)
  simp only [either, Covers, Query.holds_simplify, Query.holds, Query.holdsAny, hq, Bool.true_or]

theorem covers_either_right (k : Knowledge) {l : Knowledge} {x : Bytes} (h : l.Covers x) :
    (either k l).Covers x := by
  have hq := holds_toQuery h (List.infix_refl x)
  simp only [either, Covers, Query.holds_simplify, Query.holds, Query.holdsAny, hq, Bool.true_or,
    Bool.or_true]

theorem covers_alternate_left {k : Knowledge} {x : Bytes} (l : Knowledge) (h : k.Covers x) :
    (k.alternate l).Covers x := by
  unfold alternate
  split
  · split
    · simp only [Covers, Bytes.mem_sorted, List.mem_append]
      exact .inl h
    · exact covers_either_left _ h
  · exact covers_either_left _ h

theorem covers_alternate_right (k : Knowledge) {l : Knowledge} {x : Bytes} (h : l.Covers x) :
    (k.alternate l).Covers x := by
  unfold alternate
  split
  · split
    · simp only [Covers, Bytes.mem_sorted, List.mem_append]
      exact .inr h
    · exact covers_either_right _ h
  · exact covers_either_right _ h

theorem bounded_alternate (k l : Knowledge) : (k.alternate l).Bounded := by
  unfold alternate
  split
  · next xs ys =>
    split
    · next h =>
      have hlen := Bytes.length_sorted_le (xs ++ ys)
      rw [List.length_append] at hlen
      exact Nat.le_trans hlen h
    · trivial
  · trivial

/-- A class covers the encodings of its members. -/
theorem covers_ofClass (encode : Nat → Bytes) {set : Ranges} {x : Nat}
    (h : set.contains x = true) : (ofClass encode set).Covers (encode x) := by
  unfold ofClass
  split
  · rfl
  · obtain ⟨r, hr, hx⟩ := List.any_eq_true.mp h
    simp only [Span.contains, Bool.and_eq_true, decide_eq_true_eq] at hx
    simp only [Covers, Bytes.mem_sorted, List.mem_flatMap, List.mem_map]
    refine ⟨r, hr, x, ?_, rfl⟩
    rw [List.mem_range'_1, Span.size]
    omega

theorem length_members (encode : Nat → Bytes) (set : Ranges) :
    (set.flatMap fun r => (List.range' r.lo r.size).map encode).length = set.size := by
  induction set with
  | nil => rfl
  | cons r set ih =>
    rw [List.flatMap_cons, List.length_append, ih, List.length_map, List.length_range']
    rfl

theorem bounded_ofClass (encode : Nat → Bytes) (set : Ranges) : (ofClass encode set).Bounded := by
  unfold ofClass
  split
  · trivial
  · next h =>
    have hlen := Bytes.length_sorted_le
      (set.flatMap fun r => (List.range' r.lo r.size).map encode)
    rw [length_members] at hlen
    have hmax : maxClassSize ≤ maxStrings := by decide
    exact Nat.le_trans hlen (Nat.le_trans (Nat.le_of_not_lt h) hmax)

/-- One turn of a repetition tells something of every string that contains it. -/
theorem covers_repeated_one {k : Knowledge} {x y : Bytes} {min : Nat} {max : Option Nat}
    (h : k.Covers x) (hxy : x <:+: y) (hone : min ≤ 1 → max = some 1 → x = y) :
    (k.repeated min max).Covers y := by
  unfold repeated
  split
  · exact hone (by decide) rfl ▸ h
  · split
    · simp only [Covers, Bytes.mem_sorted, List.mem_cons]
      exact .inr (hone (by decide) rfl ▸ h)
    · rfl
  · rfl
  · exact holds_toQuery h hxy

theorem covers_repeated_zero (k : Knowledge) (max : Option Nat) : (k.repeated 0 max).Covers [] := by
  unfold repeated
  split
  · contradiction
  · split
    · simp only [Covers, Bytes.mem_sorted, List.mem_cons, true_or]
    · rfl
  · rfl
  · contradiction

/-- Repetitions keep to the bound on listed strings. -/
theorem bounded_repeated {k : Knowledge} (h : k.Bounded) (min : Nat) (max : Option Nat) :
    (k.repeated min max).Bounded := by
  unfold repeated
  split
  · exact h
  · next strings =>
    split
    · next hlt =>
      have hlen := Bytes.length_sorted_le ([] :: strings)
      rw [List.length_cons] at hlen
      exact Nat.le_trans hlen hlt
    · trivial
  · trivial
  · trivial

end Knowledge

open Pattern (Subject Chain)
open Pattern.Tree

/-- Branches that are added later do not take anything away. -/
theorem covers_analyzeBranches_left {k : Knowledge} {x : Bytes} (h : k.Covers x)
    (ts : List Pattern.Tree) : (analyzeBranches k ts).Covers x := by
  induction ts generalizing k with
  | nil => rwa [analyzeBranches]
  | cons t ts ih =>
    rw [analyzeBranches]
    exact ih (Knowledge.covers_alternate_left _ h)

/-- Only the first round of a repetition is looked at. -/
theorem covers_repeated (s : Subject) {k : Knowledge} {R : Nat → Nat → Prop} {n i j min : Nat}
    {max : Option Nat} (hle : ∀ i j, R i j → i ≤ j)
    (hcovers : ∀ i j, R i j → k.Covers (s.slice i j)) (hmin : min ≤ n)
    (hmax : ∀ m, max = some m → n ≤ min + (m - min)) (h : Chain R n i j) :
    (k.repeated min max).Covers (s.slice i j) := by
  cases n with
  | zero =>
    obtain rfl : i = j := h
    obtain rfl : min = 0 := by omega
    rw [s.slice_self]
    exact Knowledge.covers_repeated_zero k max
  | succ n =>
    obtain ⟨l, hl, hrest⟩ := h
    have hslice := s.slice_append (hle i l hl) (Pattern.le_of_chain hle hrest)
    refine Knowledge.covers_repeated_one (hcovers i l hl) ?_ ?_
    · rw [← hslice]
      exact (List.prefix_append _ _).isInfix
    · intro hmin' hone
      have hn := hmax 1 hone
      obtain rfl : n = 0 := by omega
      obtain rfl : l = j := hrest
      rfl

mutual

/-- What is known of a tree covers every match of it. -/
theorem covers_analyze (s : Subject) : (t : Pattern.Tree) → {i j : Nat} → Spans s t i j →
    (analyze t).Covers (s.slice i j)
  | .empty, i, _, h => by
    rw [← show i = _ from h, s.slice_self]
    exact Knowledge.covers_emptyString
  | .literal xs, i, j, h => by
    obtain ⟨hxs, rfl⟩ := h
    rw [s.slice_eq_of_prefix hxs]
    simp [analyze, Knowledge.Covers]
  | .chars set, i, j, h => by
    obtain ⟨c, hset, hc, rfl⟩ := h
    rw [s.slice_eq_of_prefix hc]
    have hcovers := Knowledge.covers_ofClass (fun x => Utf8.encode [.ofNat x]) hset
    rwa [Char.ofNat_toNat] at hcovers
  | .bytes set, i, j, h => by
    obtain ⟨b, hset, hb, rfl⟩ := h
    have hdrop : [b] <+: s.text.drop i := by
      obtain ⟨hi, rfl⟩ := List.getElem?_eq_some_iff.mp hb
      rw [List.drop_eq_getElem_cons hi]
      exact List.prefix_append [s.text[i]] _
    have hslice := s.slice_eq_of_prefix hdrop
    rw [List.length_singleton] at hslice
    rw [hslice]
    have hcovers := Knowledge.covers_ofClass (fun x => [.ofNat x]) hset
    rwa [UInt8.ofNat_toNat] at hcovers
  | .look _, i, _, h => by
    rw [← h.2, s.slice_self]
    exact Knowledge.covers_emptyString
  | .repetition min max _ sub, i, j, h => by
    obtain ⟨n, hmin, hmax, hchain⟩ := h
    rw [analyze]
    exact covers_repeated s (fun _ _ => le_of_spans s sub) (fun _ _ => covers_analyze s sub) hmin
      hmax hchain
  | .capture _ _ sub, i, j, h => by
    rw [analyze]
    exact covers_analyze s sub h
  | .concat subs, i, j, h => by
    rw [analyze]
    have hcovers := covers_analyzeFactors s subs (Nat.le_refl i) h
      (by rw [s.slice_self]; exact Knowledge.covers_emptyString)
    exact hcovers
  | .alternation [], _, _, h => h.elim
  | .alternation (t :: ts), i, j, h => by
    rw [analyze]
    rcases h with h | h
    · exact covers_analyzeBranches_left (covers_analyze s t h) ts
    · exact covers_analyzeBranches_right s ts h (analyze t)

/-- A concatenation is analysed from left to right, so what was known before stays covered. -/
theorem covers_analyzeFactors (s : Subject) : (ts : List Pattern.Tree) → {k : Knowledge} →
    {i l j : Nat} → i ≤ l → SpansThrough s ts l j → k.Covers (s.slice i l) →
    (analyzeFactors k ts).Covers (s.slice i j)
  | [], _, _, _, _, _, h, hk => by
    rw [← show _ = _ from h]
    exact hk
  | t :: ts, k, i, l, j, hil, h, hk => by
    obtain ⟨m, hm, hrest⟩ := h
    have hlm := le_of_spans s t hm
    rw [analyzeFactors]
    refine covers_analyzeFactors s ts (Nat.le_trans hil hlm) hrest ?_
    rw [← s.slice_append hil hlm]
    exact Knowledge.covers_concat hk (covers_analyze s t hm)

theorem covers_analyzeBranches_right (s : Subject) : (ts : List Pattern.Tree) → {i j : Nat} →
    SpansAny s ts i j → (k : Knowledge) → (analyzeBranches k ts).Covers (s.slice i j)
  | [], _, _, h, _ => h.elim
  | t :: ts, _, _, h, k => by
    rw [analyzeBranches]
    rcases h with h | h
    · exact covers_analyzeBranches_left (Knowledge.covers_alternate_right k (covers_analyze s t h)) ts
    · exact covers_analyzeBranches_right s ts h _

end

theorem bounded_analyzeFactors {k : Knowledge} (h : k.Bounded) (ts : List Pattern.Tree) :
    (analyzeFactors k ts).Bounded := by
  induction ts generalizing k with
  | nil => rwa [analyzeFactors]
  | cons t ts ih =>
    rw [analyzeFactors]
    exact ih (Knowledge.bounded_concat k (analyze t))

theorem bounded_analyzeBranches {k : Knowledge} (h : k.Bounded) (ts : List Pattern.Tree) :
    (analyzeBranches k ts).Bounded := by
  induction ts generalizing k with
  | nil => rwa [analyzeBranches]
  | cons t ts ih =>
    rw [analyzeBranches]
    exact ih (Knowledge.bounded_alternate k (analyze t))

/-- A list of strings never grows past the limit. -/
theorem bounded_analyze : (t : Pattern.Tree) → (analyze t).Bounded
  | .empty | .look _ | .literal _ => by
    rw [analyze]
    exact Nat.le_of_ble_eq_true rfl
  | .chars set => by
    rw [analyze]
    exact Knowledge.bounded_ofClass _ set
  | .bytes set => by
    rw [analyze]
    exact Knowledge.bounded_ofClass _ set
  | .capture _ _ sub => by
    rw [analyze]
    exact bounded_analyze sub
  | .repetition min max _ sub => by
    rw [analyze]
    exact Knowledge.bounded_repeated (bounded_analyze sub) min max
  | .concat subs => by
    rw [analyze]
    exact bounded_analyzeFactors (Nat.le_of_ble_eq_true rfl) subs
  | .alternation [] => by
    rw [analyze]
    trivial
  | .alternation (t :: ts) => by
    rw [analyze]
    exact bounded_analyzeBranches (bounded_analyze t) ts

/-- A value that contains a match of a tree passes the condition of the tree. -/
theorem holds_analyze {t : Pattern.Tree} {x y : Bytes} (h : t.Matches x) (hxy : x <:+: y) :
    (analyze t).toQuery.holds (windows y) = true := by
  obtain ⟨s, i, j, hspan, rfl⟩ := h
  exact Knowledge.holds_toQuery (covers_analyze s t hspan) hxy

end InvertedIndex.Trigram
