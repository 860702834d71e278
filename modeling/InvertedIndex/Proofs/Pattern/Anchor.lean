import InvertedIndex.Proofs.Pattern.Anchor.Reader
import InvertedIndex.Proofs.Pattern.Matching

namespace InvertedIndex.Pattern

theorem readFrom_of_parse? {text : List Char} {e : Expr} (h : Expr.parse? text = some e) :
    Reader.readFrom (text.length + 1) .start text = some e := by
  unfold Expr.parse? at h
  split at h
  · cases h
  · next e' hread =>
    split at h
    · rw [hread]
      exact h
    · cases h

theorem depth_of_parse? {text : List Char} {e : Expr} (h : Expr.parse? text = some e) :
    e.depth ≤ Expr.maxDepth := by
  unfold Expr.parse? at h
  split at h
  · cases h
  · split at h
    · next hdepth => rwa [← Option.some.inj h]
    · cases h

/-- The text closes a group that it has not opened, as far as it can be read. -/
def hasStray (text : List Char) : Bool := Reader.meetsStray (text.length + 1) .start text

/-- A text that closes a group which it has not opened is no pattern. -/
theorem parse?_of_hasStray {text : List Char} (h : hasStray text = true) :
    Expr.parse? text = none := by
  rw [Expr.parse?, Reader.readFrom_of_meetsStray h]

/-- Between the anchors stands, in a group, what a text stands for that closes only what it opened. -/
theorem parse?_of_anchor {text : List Char} {anchored : Expr} (hstray : hasStray text = false)
    (ha : Expr.parse? (anchor text) = some anchored) :
    ∃ e, Expr.parse? text = some e ∧
      anchored = .concat [.assertion .lineStart, .group (.plain []) e, .assertion .lineEnd] := by
  have hlen : (anchor text).length + 1 = text.length + 7 := by simp [anchor]
  have hdepth := depth_of_parse? ha
  have hwhole := readFrom_of_parse? ha
  rw [hlen] at hwhole
  -- The first two steps read the opening anchor.
  have hinside : Reader.readFrom (text.length + 5) Reader.start.inside (text ++ [')', '$']) =
      some anchored := hwhole
  obtain ⟨e, he, rfl⟩ := Reader.readFrom_inside (anchored_append text) (Nat.lt_succ_self _)
    (by omega) hstray hinside
  have hshallow : e.depth ≤ Expr.maxDepth := by
    simp only [Expr.depth, Expr.depthOfAll] at hdepth
    omega
  have hparse : Expr.parse? text = some e := by
    rw [Expr.parse?, he]
    exact if_pos hshallow
  exact ⟨e, hparse, rfl⟩

/-- A text stands for a tree if it can be read and its flags can be resolved. -/
theorem bareTree_eq_ok_iff {text : List Char} {t : Tree} :
    bareTree text = .ok t ↔ ∃ e, Expr.parse? text = some e ∧ Tree.ofExpr? e = some t := by
  unfold bareTree parseTree?
  cases Expr.parse? text with
  | none => simp
  | some e => cases h : Tree.ofExpr? e <;> simp [h]

/-- A text that closes what it has not opened has no tree of its own. -/
theorem bareTree_of_hasStray {text : List Char} (h : hasStray text = true) :
    bareTree text = .error (.invalidPattern "malformed pattern") := by
  rw [bareTree, parseTree?, parse?_of_hasStray h]
  rfl

/-- Any other text has a tree if the anchored text has one, which holds the tree of the bare text
between the ends of the text. -/
theorem bareTree_of_anchor {text : List Char} {anchored : Tree} (hstray : hasStray text = false)
    (ha : bareTree (anchor text) = .ok anchored) :
    ∃ t, bareTree text = .ok t ∧ anchored = .ofFactors [.look .textStart, t, .look .textEnd] := by
  obtain ⟨a, ha, hanchored⟩ := bareTree_eq_ok_iff.mp ha
  obtain ⟨e, he, rfl⟩ := parse?_of_anchor hstray ha
  have hchange : Flags.default.change [] = Flags.default := rfl
  cases hresolve : Tree.resolve? .default e with
  | none => simp [Tree.ofExpr?, Tree.resolve?, Tree.resolveAll?, hchange, hresolve] at hanchored
  | some found =>
    have htree : Tree.ofExpr? e = some found.1 := by rw [Tree.ofExpr?, hresolve]; rfl
    simp only [Tree.ofExpr?, Tree.resolve?, Tree.resolveAll?, hchange, hresolve, Option.map_some,
      Option.some.injEq] at hanchored
    exact ⟨found.1, bareTree_eq_ok_iff.mpr ⟨e, he, htree⟩, hanchored.symm⟩

/-- The tree of the anchored text holds the tree of the bare one between the ends of the text. -/
theorem bareTree_anchor {text : List Char} {t anchored : Tree} (ht : bareTree text = .ok t)
    (ha : bareTree (anchor text) = .ok anchored) :
    anchored = .ofFactors [.look .textStart, t, .look .textEnd] := by
  have hstray : hasStray text = false := by
    rw [Bool.eq_false_iff]
    intro h
    rw [bareTree_of_hasStray h] at ht
    cases ht
  obtain ⟨t', ht', hanchored⟩ := bareTree_of_anchor hstray ha
  rwa [Except.ok.inj (ht.symm.trans ht')]

/-- What is compiled is the anchored text. -/
theorem compile_eq_ok {text : List Char} {p : Pattern} (h : compile text = .ok p) :
    p.text = text ∧ bareTree (anchor text) = .ok p.tree := by
  unfold compile at h
  split at h
  · cases h
  · next tree e =>
    split at h
    · cases h
      exact ⟨rfl, e⟩
    · cases h

theorem bareTree_eq_error {text : List Char} {e : Error} (h : bareTree text = .error e) :
    ∃ reason, e = .invalidPattern reason := by
  unfold bareTree at h
  split at h
  · exact ⟨_, (Except.error.inj h).symm⟩
  · cases h

/-- Whatever is wrong with a text, the error says that the pattern is invalid. -/
theorem compile_eq_error {text : List Char} {e : Error} (h : compile text = .error e) :
    ∃ reason, e = .invalidPattern reason := by
  unfold compile at h
  split at h
  · next e' htree =>
    rw [← Except.error.inj h]
    exact bareTree_eq_error htree
  · split at h
    · cases h
    · exact ⟨_, (Except.error.inj h).symm⟩

/-- What a compiled pattern matches, the tree of its text spans from end to end. -/
theorem spans_of_isMatch_of_compile {text : List Char} {p : Pattern} {t : Tree} {value : Bytes}
    (hp : compile text = .ok p) (ht : bareTree text = .ok t) (h : p.isMatch value = true) :
    Tree.Spans (.ofText value) t 0 value.length := by
  obtain ⟨-, htree⟩ := compile_eq_ok hp
  obtain ⟨i, j, hspans⟩ := Tree.spans_of_isMatch h
  rw [bareTree_anchor ht htree, Tree.spans_ofFactors] at hspans
  obtain ⟨_, ⟨hstart, rfl⟩, l, hl, _, ⟨hend, rfl⟩, rfl⟩ := hspans
  obtain rfl : i = 0 := of_decide_eq_true hstart
  obtain rfl : l = value.length := of_decide_eq_true hend
  exact hl

/-- A compiled pattern matches just what the tree of its text spans from end to end. -/
theorem isMatch_iff_of_compile {text : List Char} {p : Pattern} {t : Tree} {value : Bytes}
    (hp : compile text = .ok p) (ht : bareTree text = .ok t) :
    p.isMatch value = true ↔ Tree.Spans (.ofText value) t 0 value.length := by
  refine ⟨spans_of_isMatch_of_compile hp ht, ?_⟩
  intro h
  obtain ⟨-, htree⟩ := compile_eq_ok hp
  rw [isMatch, Tree.isMatch_iff, bareTree_anchor ht htree]
  refine ⟨0, Nat.zero_le _, value.length, ?_⟩
  rw [Tree.spans_ofFactors]
  exact ⟨0, ⟨rfl, rfl⟩, _, h, _, ⟨decide_eq_true rfl, rfl⟩, rfl⟩

/-- Searching with the anchored text finds what the tree of the bare text matches as a whole. -/
theorem isMatch_eq_isWholeMatch {text : List Char} {p : Pattern} {t : Tree}
    (hp : compile text = .ok p) (ht : bareTree text = .ok t) (value : Bytes) :
    p.isMatch value = t.isWholeMatch value := by
  rw [Bool.eq_iff_iff, isMatch_iff_of_compile hp ht, Tree.isWholeMatch_iff]

end InvertedIndex.Pattern
