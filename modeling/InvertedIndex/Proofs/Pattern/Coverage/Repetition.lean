import InvertedIndex.Proofs.Pattern.Coverage
import Mathlib.Data.Finset.Card
import Mathlib.Data.Finset.Range

namespace InvertedIndex.Pattern.Step

variable {n : Nat} {R : Nat → Nat → Prop} {f : Step} {trail : Trail} {asked told : List Nat}

/-- The trails of a step that is repeated, as far as they were used; behind them all are blank. -/
def parts : Trail → List Trail
  | .node _ parts => parts

/-- Each trail of a row has a history: the step was asked `asked m` with trail `m` and told `told m`. -/
def Rows (f : Step) (n : Nat) (trails : List Trail) (asked told : Nat → List Nat) : Prop :=
  ∀ m < n, History f (trails.getD m .blank) (asked m) (told m)

theorem rows_blank (f : Step) (n : Nat) : Rows f n [] (fun _ => []) fun _ => [] := by
  intro m _
  exact .blank

/-- A list of answers with one more in front. -/
def prepend (xs : List Nat) (rest : Nat → List Nat) : Nat → List Nat
  | 0 => xs
  | m + 1 => rest m

theorem rows_cons {trails : List Trail} {asked told : Nat → List Nat}
    (h : History f trail (asked 0) (told 0))
    (hrest : Rows f n trails (fun m => asked (m + 1)) fun m => told (m + 1)) :
    Rows f (n + 1) (trail :: trails) asked told := by
  intro m hm
  cases m with
  | zero => exact h
  | succ m => exact hrest m (Nat.lt_of_succ_lt_succ hm)

theorem Rows.head {trails : List Trail} {asked told : Nat → List Nat}
    (h : Rows f (n + 1) trails asked told) :
    History f (trails.headD .blank) (asked 0) (told 0) := by
  have hzero := h 0 (Nat.succ_pos n)
  cases trails with
  | nil => exact hzero
  | cons trail trails => exact hzero

theorem Rows.tail {trails : List Trail} {asked told : Nat → List Nat}
    (h : Rows f (n + 1) trails asked told) :
    Rows f n trails.tail (fun m => asked (m + 1)) fun m => told (m + 1) := by
  intro m hm
  have hnext := h (m + 1) (Nat.succ_lt_succ hm)
  cases trails with
  | nil => exact hnext
  | cons trail trails => exact hnext

theorem take_eq (f : Step) (used unused : List Trail) (ps : List Nat) :
    Row.take f ⟨used, unused⟩ ps =
      ((f (unused.headD .blank) ps).1, ⟨(f (unused.headD .blank) ps).2 :: used, unused.tail⟩) := by
  cases unused <;> rfl

theorem close_eq (used unused : List Trail) :
    Row.close ⟨used, unused⟩ = .node ∅ (used.reverse ++ unused) := by
  rw [Row.close, List.reverseAux_eq]

/-- What one trail of the row told is what the next one is asked. -/
theorem timesIn_eq {n : Nat} (used : List Trail) {unused : List Trail} {answers : Nat → List Nat}
    (h : Rows f n unused answers fun m => answers (m + 1)) (ps : List Nat) :
    ∃ trails answers', (timesIn f n ⟨used, unused⟩ ps).2 = .node ∅ (used.reverse ++ trails) ∧
      Rows f n trails answers' (fun m => answers' (m + 1)) ∧ answers' 0 = answers 0 ++ ps ∧
      answers' n = answers n ++ (timesIn f n ⟨used, unused⟩ ps).1 := by
  induction n generalizing used unused answers ps with
  | zero =>
    refine ⟨unused, fun _ => answers 0 ++ ps, close_eq used unused, ?_, rfl, rfl⟩
    intro m hm
    cases hm
  | succ n ih =>
    cases ps with
    | nil =>
      refine ⟨unused, answers, close_eq used unused, h, ?_, ?_⟩
      · rw [List.append_nil]
      · rw [timesIn, List.append_nil]
    | cons p ps =>
      have hfirst := h.head.ask (p :: ps)
      have htake := take_eq f used unused (p :: ps)
      generalize f (unused.headD .blank) (p :: ps) = step at hfirst htake
      obtain ⟨trails, answers', htrail, hrows, hzero, hlast⟩ := ih (step.2 :: used) h.tail step.1
      rw [← hzero] at hfirst
      refine ⟨step.2 :: trails, prepend (answers 0 ++ p :: ps) answers', ?_,
        rows_cons hfirst hrows, rfl, ?_⟩
      · rw [timesIn, htake, htrail]
        simp
      · rw [timesIn, htake]
        exact hlast

/-- What each step of a row has told, the next one was asked. -/
theorem History.of_times (h : History (times f n) trail asked told) :
    ∃ answers, Rows f n (parts trail) answers (fun m => answers (m + 1)) ∧ answers 0 = asked ∧
      answers n = told := by
  induction h with
  | blank => exact ⟨fun _ => [], rows_blank f n, rfl, rfl⟩
  | @ask trail asked told _ ps ih =>
    obtain ⟨answers, hrows, rfl, rfl⟩ := ih
    obtain ⟨seen, trails⟩ := trail
    obtain ⟨trails', answers', htrail, hrows', hzero, hlast⟩ := timesIn_eq [] hrows ps
    refine ⟨answers', ?_, hzero, hlast⟩
    have hparts : parts (times f n (.node seen trails) ps).2 = trails' := congrArg parts htrail
    rw [hparts]
    exact hrows'

/-- Each step of a row covers its relation, so the row covers the chains through all of them. -/
theorem Rows.covers (hf : Covers n R f) (hwithin : Within R f) (hbounded : Bounded n R) {m : Nat}
    {trails : List Trail} {answers : Nat → List Nat}
    (h : Rows f m trails answers fun l => answers (l + 1)) (hasked : ∀ i ∈ answers 0, i ≤ n) :
    ∀ i ∈ answers 0, ∀ j, Chain R m i j → j ∈ answers m := by
  induction m generalizing trails answers with
  | zero =>
    intro i hi j hij
    obtain rfl : i = j := hij
    exact hi
  | succ m ih =>
    intro i hi j hij
    obtain ⟨k, hR, hrest⟩ := hij
    have hk := hf _ _ _ h.head hasked i hi k hR
    exact ih h.tail (h.head.told_le hwithin hbounded hasked) k hk j hrest

theorem covers_times (hf : Covers n R f) (hwithin : Within R f) (hbounded : Bounded n R) (m : Nat) :
    Covers n (Chain R m) (times f m) := by
  intro trail asked told h hasked
  obtain ⟨answers, hrows, rfl, rfl⟩ := h.of_times
  exact hrows.covers hf hwithin hbounded hasked

theorem bounded_chain (h : Bounded n R) (m : Nat) : Bounded n (Chain R m) := by
  induction m with
  | zero =>
    intro i j hij hi
    obtain rfl : i = j := hij
    exact hi
  | succ m ih =>
    intro i j hij hi
    obtain ⟨k, hk, hrest⟩ := hij
    exact ih k j hrest (h i k hk hi)

theorem bounded_chains (h : Bounded n R) : Bounded n fun i j => ∃ m, Chain R m i j := by
  intro i j hij
  obtain ⟨m, hchain⟩ := hij
  exact bounded_chain h m i j hchain

/-- What a run through the levels of a row makes of it, if the run knew `found` when it asked for
`latest`, and found `result`. Whatever a trail tells was told or found before, or is asked at the next
level at the latest. -/
structure Joins (f : Step) (m : Nat) (trails : List Trail) (asked told : Nat → List Nat)
    (found latest result : List Nat) (asked' told' : Nat → List Nat) : Prop where
  rows : Rows f m trails asked' told'
  keeps_asked : ∀ l, ∀ j ∈ asked l, j ∈ asked' l
  takes_latest : ∀ j ∈ latest, j ∈ asked' 0
  keeps_found : ∀ j ∈ found, j ∈ result
  mem_of_asked : ∀ l, ∀ j ∈ asked' l, j ∈ asked l ∨ j ∈ result
  mem_of_told : ∀ l < m, ∀ j ∈ told' l, j ∈ told l ∨ j ∈ found ∨ ∃ k ≤ l + 1, j ∈ asked' k

section

variable {m : Nat} {trails : List Trail} {asked told : Nat → List Nat} {found latest : List Nat}

theorem mem_prepend_append {l : Nat} {j : Nat} {xs : List Nat} :
    j ∈ prepend (asked 0 ++ xs) (fun l => asked (l + 1)) l ↔ j ∈ asked l ∨ l = 0 ∧ j ∈ xs := by
  cases l <;> simp [prepend]

/-- The run ends where no trail is left. -/
theorem joins_last (hlatest : ∀ j ∈ latest, j ∈ found) :
    Joins f 0 trails asked told found latest found
      (prepend (asked 0 ++ latest) fun l => asked (l + 1)) told where
  rows := by
    intro l hl
    cases hl
  keeps_asked _ _ hj := mem_prepend_append.mpr (.inl hj)
  takes_latest _ hj := List.mem_append_right _ hj
  keeps_found _ hj := hj
  mem_of_asked _ j hj := (mem_prepend_append.mp hj).imp_right fun h => hlatest j h.2
  mem_of_told := by
    intro l hl
    cases hl

/-- The run ends where nothing new was told. -/
theorem joins_stop {ps : List Nat} (hrest : Rows f m trails (fun l => asked (l + 1)) fun l => told (l + 1))
    (hfirst : History f trail (asked 0 ++ latest) (told 0 ++ ps))
    (hlatest : ∀ j ∈ latest, j ∈ found) (hps : ∀ j ∈ ps, j ∈ found) :
    Joins f (m + 1) (trail :: trails) asked told found latest found
      (prepend (asked 0 ++ latest) fun l => asked (l + 1))
      (prepend (told 0 ++ ps) fun l => told (l + 1)) where
  rows := rows_cons hfirst hrest
  keeps_asked _ _ hj := mem_prepend_append.mpr (.inl hj)
  takes_latest _ hj := List.mem_append_right _ hj
  keeps_found _ hj := hj
  mem_of_asked _ j hj := (mem_prepend_append.mp hj).imp_right fun h => hlatest j h.2
  mem_of_told _ _ j hj := (mem_prepend_append.mp hj).imp_right fun h => .inl (hps j h.2)

/-- The run goes on from what was told and is new. -/
theorem joins_next {ps new result : List Nat} {asked' told' : Nat → List Nat}
    (hfirst : History f trail (asked 0 ++ latest) (told 0 ++ ps))
    (hlatest : ∀ j ∈ latest, j ∈ found) (hps : ∀ j ∈ ps, j ∈ found ∨ j ∈ new)
    (hrest : Joins f m trails (fun l => asked (l + 1)) (fun l => told (l + 1)) (new ++ found) new
      result asked' told') :
    Joins f (m + 1) (trail :: trails) asked told found latest result
      (prepend (asked 0 ++ latest) asked') (prepend (told 0 ++ ps) told') where
  rows := rows_cons hfirst hrest.rows
  keeps_asked l j hj := by
    cases l with
    | zero => exact List.mem_append_left _ hj
    | succ l => exact hrest.keeps_asked l j hj
  takes_latest _ hj := List.mem_append_right _ hj
  keeps_found j hj := hrest.keeps_found j (List.mem_append_right _ hj)
  mem_of_asked l j hj := by
    cases l with
    | succ l => exact hrest.mem_of_asked l j hj
    | zero =>
      apply (List.mem_append.mp hj).imp_right
      intro hj
      exact hrest.keeps_found j (List.mem_append_right _ (hlatest j hj))
  mem_of_told l hl j hj := by
    have hnew (hj : j ∈ new) : ∃ k ≤ l + 1, j ∈ prepend (asked 0 ++ latest) asked' k :=
      ⟨1, by omega, hrest.takes_latest j hj⟩
    cases l with
    | zero =>
      apply (List.mem_append.mp hj).imp_right
      intro hj
      exact (hps j hj).imp_right hnew
    | succ l =>
      apply (hrest.mem_of_told l (Nat.lt_of_succ_lt_succ hl) j hj).imp_right
      intro hj
      cases hj with
      | inl hj =>
        cases List.mem_append.mp hj with
        | inl hj => exact .inr (hnew hj)
        | inr hj => exact .inl hj
      | inr hj =>
        obtain ⟨k, hk, hj⟩ := hj
        exact .inr ⟨k + 1, Nat.succ_le_succ hk, hj⟩

/-- A run through the levels goes on from the histories that they have. -/
theorem joins_upToIn (used : List Trail) {unused : List Trail} {seen : Std.HashSet Nat}
    (h : Rows f m unused asked told) (hseen : ∀ j, seen.contains j = true ↔ j ∈ found)
    (hlatest : ∀ j ∈ latest, j ∈ found) :
    ∃ trails asked' told',
      (upToIn f m ⟨used, unused⟩ seen found latest).2 = .node ∅ (used.reverse ++ trails) ∧
      Joins f m trails asked told found latest
        (upToIn f m ⟨used, unused⟩ seen found latest).1 asked' told' := by
  induction m generalizing used unused asked told seen found latest with
  | zero => exact ⟨unused, _, told, close_eq used unused, joins_last hlatest⟩
  | succ m ih =>
    have hfirst := h.head.ask latest
    rw [upToIn_succ, take_eq]
    generalize f (unused.headD .blank) latest = step at hfirst
    have hnews : News found step.1 (fresh seen step.1) := news_fresh hseen
    generalize fresh seen step.1 = next at hnews
    obtain ⟨seen', new⟩ := next
    cases new with
    | nil =>
      refine ⟨step.2 :: unused.tail, _, _, ?_, joins_stop h.tail hfirst hlatest ?_⟩
      · simp [close_eq]
      · intro j hj
        exact (hnews.known j hj).resolve_right List.not_mem_nil
    | cons x xs =>
      have hlatest' : ∀ j ∈ x :: xs, j ∈ x :: xs ++ found := fun j hj => List.mem_append_left _ hj
      obtain ⟨trails, asked', told', htrail, hjoins⟩ :=
        ih (step.2 :: used) h.tail hnews.contains_iff hlatest'
      refine ⟨step.2 :: trails, _, _, ?_, joins_next hfirst hlatest hnews.known hjoins⟩
      rw [htrail]
      simp

end

/-- After any number of calls, what a trail told has been asked at some level. -/
theorem History.of_upTo {m : Nat} (h : History (upTo f m) trail asked told) :
    ∃ rows answers, Rows f m (parts trail) rows answers ∧ (∀ i ∈ asked, i ∈ rows 0) ∧
      (∀ l, ∀ j ∈ rows l, j ∈ told) ∧ ∀ l < m, ∀ j ∈ answers l, ∃ k ≤ l + 1, j ∈ rows k := by
  induction h with
  | blank => exact ⟨fun _ => [], fun _ => [], rows_blank f m, by simp, by simp, by simp⟩
  | @ask trail asked told _ ps ih =>
    obtain ⟨rows, answers, hrows, hasked, htold, hlevels⟩ := ih
    obtain ⟨seen, trails⟩ := trail
    have hnews : News [] ps (fresh ∅ ps) := news_fresh (by simp)
    have hset := hnews.contains_iff
    rw [List.append_nil] at hset
    obtain ⟨trails', rows', answers', htrail, hjoins⟩ := joins_upToIn [] hrows hset fun _ => id
    have hparts : parts (upTo f m (.node seen trails) ps).2 = trails' := congrArg parts htrail
    refine ⟨rows', answers', ?_, ?_, ?_, ?_⟩
    · rw [hparts]
      exact hjoins.rows
    · intro i hi
      cases List.mem_append.mp hi with
      | inl hi => exact hjoins.keeps_asked 0 i (hasked i hi)
      | inr hi => exact hjoins.takes_latest i ((hnews.known i hi).resolve_left List.not_mem_nil)
    · intro l j hj
      cases hjoins.mem_of_asked l j hj with
      | inl hj => exact List.mem_append_left _ (htold l j hj)
      | inr hj => exact List.mem_append_right _ hj
    · intro l hl j hj
      obtain hj | hj | hj := hjoins.mem_of_told l hl j hj
      · obtain ⟨k, hk, hj⟩ := hlevels l hl j hj
        exact ⟨k, hk, hjoins.keeps_asked k j hj⟩
      · exact ⟨0, Nat.zero_le _, hjoins.takes_latest j hj⟩
      · exact hj

theorem covers_upTo (hf : Covers n R f) (hwithin : Within R f) (hbounded : Bounded n R) (m : Nat) :
    Covers n (fun i j => ∃ l ≤ m, Chain R l i j) (upTo f m) := by
  intro trail asked told h hasked i hi j hij
  have hle : ∀ j ∈ told, j ≤ n := by
    apply h.told_le (within_upTo hwithin m) _ hasked
    intro i j hij
    obtain ⟨l, -, hchain⟩ := hij
    exact bounded_chain hbounded l i j hchain
  obtain ⟨rows, answers, hrows, hstart, htold, hlevels⟩ := h.of_upTo
  -- Whoever is asked at a level has been told all that the levels left can reach.
  have hreach (l k : Nat) (hl : k + l ≤ m) : ∀ i ∈ rows k, ∀ j, Chain R l i j → j ∈ told := by
    induction l generalizing k with
    | zero =>
      intro i hi j hij
      obtain rfl : i = j := hij
      exact htold k i hi
    | succ l ih =>
      intro i hi j hij
      obtain ⟨i', hR, hrest⟩ := hij
      have hk : k < m := by omega
      have hi' := hf _ _ _ (hrows k hk) (fun x hx => hle x (htold k x hx)) i hi i' hR
      obtain ⟨k', hk', hi'⟩ := hlevels k hk i' hi'
      exact ih k' (by omega) i' hi' j hrest
  obtain ⟨l, hl, hchain⟩ := hij
  exact hreach l 0 (by omega) i (hstart i hi) j hchain

/-- What a repeated step has come by is all in `told`, and from all of that it has gone on, except
from the places in `latest`. -/
def Explored (f : Step) (trail : Trail) (told latest : List Nat) : Prop :=
  ∃ asked answers, History f trail asked answers ∧ (∀ j ∈ answers, j ∈ told) ∧
    (∀ j ∈ asked, j ∈ told) ∧ ∀ j ∈ told, j ∈ asked ∨ j ∈ latest

/-- One round: what is new is where to go on from next. -/
theorem Explored.ask {latest new told' : List Nat} (h : Explored f trail told latest)
    (hlatest : ∀ j ∈ latest, j ∈ told) (htold : ∀ j, j ∈ told' ↔ j ∈ told ∨ j ∈ new)
    (hanswers : ∀ j ∈ (f trail latest).1, j ∈ told') :
    Explored f (f trail latest).2 told' new := by
  obtain ⟨asked, answers, hhistory, hsound, hasked, hcomplete⟩ := h
  refine ⟨_, _, hhistory.ask latest, ?_, ?_, ?_⟩
  · intro j hj
    cases List.mem_append.mp hj with
    | inl hj => exact (htold j).mpr (.inl (hsound j hj))
    | inr hj => exact hanswers j hj
  · intro j hj
    apply (htold j).mpr
    cases List.mem_append.mp hj with
    | inl hj => exact .inl (hasked j hj)
    | inr hj => exact .inl (hlatest j hj)
  · intro j hj
    rw [List.mem_append]
    cases (htold j).mp hj with
    | inl hj => exact .inl (hcomplete j hj)
    | inr hj => exact .inr hj

/-- Between calls: the set has what was told, and from there the step has gone on, unless there is
nowhere left to go. -/
def Settled (f : Step) (n : Nat) : Trail → List Nat → Prop
  | .node seen parts, told =>
    (∀ j, seen.contains j = true ↔ j ∈ told) ∧
      (Explored f (parts.headD .blank) told [] ∨ ∀ j ≤ n, j ∈ told)

/-- A round that finds something counts. -/
theorem card_lt_of_new {old new : List Nat} (hne : new ≠ []) (hnew : ∀ j ∈ new, j ∉ old) :
    old.toFinset.card < (new ++ old).toFinset.card := by
  apply Finset.card_lt_card
  rw [Finset.ssubset_iff_of_subset]
  · obtain ⟨x, hx⟩ := List.exists_mem_of_ne_nil new hne
    refine ⟨x, ?_, ?_⟩
    · rw [List.mem_toFinset]
      exact List.mem_append_left _ hx
    · rw [List.mem_toFinset]
      exact hnew x hx
  · intro j hj
    rw [List.mem_toFinset] at hj ⊢
    exact List.mem_append_right _ hj

/-- Of the places up to `n`, more than `n` are all. -/
theorem mem_of_lt_card {told : List Nat} (hle : ∀ j ∈ told, j ≤ n)
    (hcard : n + 1 ≤ told.toFinset.card) : ∀ j ≤ n, j ∈ told := by
  have hsubset : told.toFinset ⊆ Finset.range (n + 1) := by
    intro j hj
    rw [List.mem_toFinset] at hj
    exact Finset.mem_range.mpr (Nat.lt_succ_of_le (hle j hj))
  have hall : told.toFinset = Finset.range (n + 1) :=
    Finset.eq_of_subset_of_card_le hsubset (by rwa [Finset.card_range])
  intro j hj
  rw [← List.mem_toFinset, hall]
  exact Finset.mem_range.mpr (Nat.lt_succ_of_le hj)

/-- The loop, when `told` was told in earlier calls. Either the rounds end because nothing is new, or
each of them counts and there are as many as there are places. -/
theorem settled_anyTimesIn (hwithin : Within R f) (hbounded : Bounded n R) {m : Nat}
    {seen : Std.HashSet Nat} {found latest : List Nat}
    (h : Explored f trail (found ++ told) latest)
    (hseen : ∀ j, seen.contains j = true ↔ j ∈ found ++ told) (hlatest : ∀ j ∈ latest, j ∈ found)
    (hle : ∀ j ∈ found ++ told, j ≤ n) (hcard : n + 1 ≤ (found ++ told).toFinset.card + m) :
    (∀ j ∈ found, j ∈ (anyTimesIn f m trail seen found latest).1) ∧
      Settled f n (anyTimesIn f m trail seen found latest).2
        ((anyTimesIn f m trail seen found latest).1 ++ told) := by
  induction m generalizing trail seen found latest with
  | zero => exact ⟨fun _ => id, hseen, .inr (mem_of_lt_card hle hcard)⟩
  | succ m ih =>
    rw [anyTimesIn_succ]
    have hlatest' : ∀ j ∈ latest, j ∈ found ++ told :=
      fun j hj => List.mem_append_left _ (hlatest j hj)
    have hnews : News (found ++ told) (f trail latest).1 (fresh seen (f trail latest).1) :=
      news_fresh hseen
    generalize fresh seen (f trail latest).1 = next at hnews
    obtain ⟨seen', new⟩ := next
    have hset := hnews.contains_iff
    have hanswers := hnews.known
    cases new with
    | nil =>
      simp only [List.not_mem_nil, or_false] at hanswers
      exact ⟨fun _ => id, hset, .inl (h.ask hlatest' (by simp) hanswers)⟩
    | cons x xs =>
      have hall : ∀ j, j ∈ (x :: xs) ++ found ++ told ↔ j ∈ found ++ told ∨ j ∈ x :: xs := by
        intro j
        rw [List.append_assoc, List.mem_append, or_comm]
      have hlt := card_lt_of_new (List.cons_ne_nil x xs) hnews.not_mem_of_new
      rw [← List.append_assoc] at hlt hset
      have hnext := h.ask hlatest' hall fun j hj => (hall j).mpr (hanswers j hj)
      have hbound : ∀ j ∈ (x :: xs) ++ found ++ told, j ≤ n := by
        intro j hj
        cases (hall j).mp hj with
        | inl hj => exact hle j hj
        | inr hj =>
          obtain ⟨i, hi, hij⟩ := hwithin trail latest j (hnews.mem_of_new j hj)
          exact hbounded i j hij (hle i (hlatest' i hi))
      obtain ⟨hkeep, hsettled⟩ := ih hnext hset (fun j hj => List.mem_append_left _ hj) hbound (by omega)
      exact ⟨fun j hj => hkeep j (List.mem_append_right _ hj), hsettled⟩

theorem Settled.of_mem_iff {told' : List Nat} (h : Settled f n trail told)
    (htold : ∀ j, j ∈ told ↔ j ∈ told') : Settled f n trail told' := by
  obtain ⟨seen, parts⟩ := trail
  simpa only [Settled, Explored, htold] using h

/-- Places that are new were never gone on from. -/
theorem Explored.start {new : List Nat} (h : Explored f trail told []) :
    Explored f trail (new ++ told) new := by
  obtain ⟨asked, answers, hhistory, hsound, hasked, hcomplete⟩ := h
  simp only [List.not_mem_nil, or_false] at hcomplete
  refine ⟨asked, answers, hhistory, ?_, ?_, ?_⟩
  · exact fun j hj => List.mem_append_right _ (hsound j hj)
  · exact fun j hj => List.mem_append_right _ (hasked j hj)
  · intro j hj
    cases List.mem_append.mp hj with
    | inl hj => exact .inr hj
    | inr hj => exact .inl (hcomplete j hj)

/-- One call. -/
theorem settled_anyTimes (hwithin : Within R f) (hbounded : Bounded n R) {ps : List Nat}
    (h : Settled f n trail told) (hle : ∀ j ∈ told, j ≤ n) (hps : ∀ i ∈ ps, i ≤ n) :
    (∀ i ∈ ps, i ∈ told ∨ i ∈ (anyTimes f n trail ps).1) ∧
      Settled f n (anyTimes f n trail ps).2 ((anyTimes f n trail ps).1 ++ told) := by
  obtain ⟨seen, parts⟩ := trail
  obtain ⟨hseen, hexplored⟩ := h
  rw [anyTimes_node]
  have hnews : News told ps (fresh seen ps) := news_fresh hseen
  generalize fresh seen ps = next at hnews
  obtain ⟨seen', new⟩ := next
  have hcover := hnews.known
  cases new with
  | nil =>
    simp only [List.not_mem_nil, or_false] at hcover
    exact ⟨fun i hi => .inl (hcover i hi), hnews.contains_iff, hexplored⟩
  | cons x xs =>
    have hroom : ¬ ∀ j ≤ n, j ∈ told := by
      intro hall
      exact hnews.not_mem_of_new x (by simp) (hall x (hps x (hnews.mem_of_new x (by simp))))
    have hbound : ∀ j ∈ (x :: xs) ++ told, j ≤ n := by
      intro j hj
      cases List.mem_append.mp hj with
      | inl hj => exact hps j (hnews.mem_of_new j hj)
      | inr hj => exact hle j hj
    have hcard := card_lt_of_new (List.cons_ne_nil x xs) hnews.not_mem_of_new
    obtain ⟨hkeep, hsettled⟩ := settled_anyTimesIn hwithin hbounded
      (hexplored.resolve_right hroom).start hnews.contains_iff (fun _ => id) hbound
      (by omega : n + 1 ≤ (x :: xs ++ told).toFinset.card + n)
    exact ⟨fun i hi => (hcover i hi).imp_right (hkeep i), hsettled⟩

/-- Rounds end when nothing new is told, so at the end all that can be reached from what was told was
told. -/
theorem History.of_anyTimes (hwithin : Within R f) (hbounded : Bounded n R)
    (h : History (anyTimes f n) trail asked told) (hasked : ∀ i ∈ asked, i ≤ n) :
    (∀ i ∈ asked, i ∈ told) ∧ Settled f n trail told := by
  induction h with
  | blank =>
    refine ⟨fun _ => id, by simp, .inl ⟨[], [], .blank, ?_⟩⟩
    simp
  | @ask trail asked told h ps ih =>
    have hold : ∀ i ∈ asked, i ≤ n := fun i hi => hasked i (List.mem_append_left _ hi)
    have hps : ∀ i ∈ ps, i ≤ n := fun i hi => hasked i (List.mem_append_right _ hi)
    obtain ⟨htold, hsettled⟩ := ih hold
    have hle : ∀ j ∈ told, j ≤ n := h.told_le (within_anyTimes hwithin n) (bounded_chains hbounded) hold
    obtain ⟨hcover, hnext⟩ := settled_anyTimes hwithin hbounded hsettled hle hps
    refine ⟨?_, hnext.of_mem_iff fun j => ?_⟩
    · intro i hi
      rw [List.mem_append]
      cases List.mem_append.mp hi with
      | inl hi => exact .inl (htold i hi)
      | inr hi => exact hcover i hi
    · rw [List.mem_append, List.mem_append, or_comm]

/-- A step that is taken any number of times covers all chains. -/
theorem covers_anyTimes (hf : Covers n R f) (hwithin : Within R f) (hbounded : Bounded n R) :
    Covers n (fun i j => ∃ m, Chain R m i j) (anyTimes f n) := by
  intro trail asked told h hasked i hi j hij
  obtain ⟨m, hchain⟩ := hij
  have hle := h.told_le (within_anyTimes hwithin n) (bounded_chains hbounded) hasked
  obtain ⟨htold, hsettled⟩ := h.of_anyTimes hwithin hbounded hasked
  obtain ⟨seen, parts⟩ := trail
  cases hsettled.2 with
  | inr hall => exact hall j (bounded_chain hbounded m i j hchain (hasked i hi))
  | inl hexplored =>
    obtain ⟨asked', answers, hhistory, hsound, hasked', hcomplete⟩ := hexplored
    simp only [List.not_mem_nil, or_false] at hcomplete
    -- What was told was asked, so the next step from it was told as well.
    have hreach (m : Nat) : ∀ i ∈ told, ∀ j, Chain R m i j → j ∈ told := by
      induction m with
      | zero =>
        intro i hi j hij
        obtain rfl : i = j := hij
        exact hi
      | succ m ih =>
        intro i hi j hij
        obtain ⟨k, hR, hrest⟩ := hij
        have hk := hf _ _ _ hhistory (fun x hx => hle x (hasked' x hx)) i (hcomplete i hi) k hR
        exact ih k (hsound k hk) j hrest
    exact hreach m i (htold i hi) j hchain

end InvertedIndex.Pattern.Step
