import InvertedIndex.Proofs.Pattern.Anchor

namespace InvertedIndex.Pattern

/-- A character that stands for itself. -/
def plainExpr (c : Char) : Expr := .literal ⟨c, false⟩

theorem quote_cons (c : Char) (cs : List Char) :
    Escape.quote (c :: cs) = (if Escape.isMeta c then ['\\', c] else [c]) ++ Escape.quote cs := rfl

theorem length_le_length_quote (cs : List Char) : cs.length ≤ (Escape.quote cs).length := by
  induction cs with
  | nil => simp
  | cons c cs ih =>
    rw [quote_cons]
    split
    · simp
      omega
    · simpa using ih

namespace Reader

/-- An escaped character stands for itself. -/
theorem read?_of_isMeta {c : Char} (h : Escape.isMeta c = true) (rest : List Char) :
    Escape.read? false (c :: rest) = some (Escape.plain c, rest) := by
  have hmem : c ∈ ['\\', '.', '+', '*', '?', '(', ')', '|', '[', ']', '\x7b', '\x7d', '^', '$', '#',
      '&', '-', '~'] := List.contains_iff_mem.mp h
  have hescapable : Escape.isEscapable c = true := by simp [Escape.isEscapable, h]
  have hnone : ['\\', '.', '+', '*', '?', '(', ')', '|', '[', ']', '\x7b', '\x7d', '^', '$', '#',
      '&', '-', '~'].any (fun c => c.isDigit || ['x', 'u', 'U', 'p', 'P'].contains c) = false := by
    decide
  have hletter := List.any_eq_false.mp hnone c hmem
  simp only [Bool.or_eq_true, not_or, Bool.not_eq_true, List.contains_eq_mem,
    decide_eq_false_iff_not, List.mem_cons, List.not_mem_nil, or_false] at hletter
  obtain ⟨hdigit, hx, hu, hU, hp, hP⟩ := hletter
  simp [Escape.read?, hdigit, hx, hu, hU, hp, hP, hescapable]

/-- A character without a meaning of its own stands for itself. -/
theorem step?_of_not_isMeta (r : Reader) {c : Char} (h : Escape.isMeta c = false)
    (rest : List Char) : r.step? c rest = some (r.push (plainExpr c), rest) := by
  unfold step?
  split <;> first
    | exact absurd h (by decide)
    | rfl

/-- A quoted character is read in one step. -/
theorem readFrom_quote_cons (n : Nat) {r : Reader} (hr : r.verbose = false) (c : Char)
    (cs rest : List Char) :
    readFrom (n + 1) r (Escape.quote (c :: cs) ++ rest) =
      readFrom n (r.push (plainExpr c)) (Escape.quote cs ++ rest) := by
  rw [readFrom, hr, quote_cons]
  cases h : Escape.isMeta c with
  | true =>
    simp only [if_true, List.cons_append, List.nil_append, Cursor.skip, Bool.false_eq_true, if_false]
    rw [step?, hr, read?_of_isMeta h]
    rfl
  | false =>
    simp only [Bool.false_eq_true, if_false, List.cons_append, List.nil_append, Cursor.skip]
    rw [step?_of_not_isMeta r h]

/-- The reader that has read these characters one by one. -/
def pushPlain (r : Reader) (cs : List Char) : Reader :=
  { r with body := ⟨(cs.map plainExpr).reverse ++ r.body.factors, r.body.branches⟩ }

theorem pushPlain_cons (r : Reader) (c : Char) (cs : List Char) :
    r.pushPlain (c :: cs) = (r.push (plainExpr c)).pushPlain cs := by
  simp [pushPlain, push, Body.push]

/-- Quoted text is read character by character, whatever follows it. -/
theorem readFrom_quote_append (n : Nat) {r : Reader} (hr : r.verbose = false) (cs rest : List Char) :
    readFrom (cs.length + n) r (Escape.quote cs ++ rest) = readFrom n (r.pushPlain cs) rest := by
  induction cs generalizing r with
  | nil => simp [Escape.quote, pushPlain]
  | cons c cs ih =>
    have hlength : (c :: cs).length + n = cs.length + n + 1 := by
      rw [List.length_cons]
      omega
    rw [hlength, readFrom_quote_cons _ hr, ih (r := r.push (plainExpr c)) hr, pushPlain_cons]

theorem result_pushPlain {r : Reader} (hbody : r.body = .empty) (cs : List Char) :
    (r.pushPlain cs).body.result = .ofFactors (cs.map plainExpr) := by
  simp [pushPlain, hbody, Body.empty, Body.result, Body.branch, Expr.ofBranches]

theorem readFrom_quote {n : Nat} {cs : List Char} (hn : cs.length < n) :
    readFrom n .start (Escape.quote cs) = some (.ofFactors (cs.map plainExpr)) := by
  obtain ⟨m, rfl⟩ : ∃ m, n = cs.length + (m + 1) := ⟨n - cs.length - 1, by omega⟩
  have hread := readFrom_quote_append (m + 1) (r := .start) rfl cs []
  rw [List.append_nil] at hread
  rw [hread, ← result_pushPlain (r := .start) rfl cs]
  rfl

/-- Between the anchors the text is read in the same way. -/
theorem readFrom_inside_quote {n : Nat} {cs : List Char} (hn : cs.length + 3 ≤ n) :
    readFrom n start.inside (Escape.quote cs ++ [')', '$']) =
      some (.concat [.assertion .lineStart, .group (.plain []) (.ofFactors (cs.map plainExpr)),
        .assertion .lineEnd]) := by
  obtain ⟨m, rfl⟩ : ∃ m, n = cs.length + m := ⟨n - cs.length, by omega⟩
  have hread := readFrom_quote_append m (r := start.inside) rfl cs [')', '$']
  have hclosing : readFrom m (start.pushPlain cs).inside [')', '$'] =
      some (.concat [.assertion .lineStart, .group (.plain []) (.ofFactors (cs.map plainExpr)),
        .assertion .lineEnd]) :=
    readFrom_closing rfl (result_pushPlain rfl cs) (by omega) rfl
  exact hread.trans hclosing

end Reader

theorem depth_ofFactors_plain (cs : List Char) : (Expr.ofFactors (cs.map plainExpr)).depth ≤ 1 := by
  have hall (cs : List Char) : Expr.depthOfAll (cs.map plainExpr) = 0 := by
    induction cs with
    | nil => rfl
    | cons c cs ih => simp [Expr.depthOfAll, ih, plainExpr, Expr.depth]
  rcases cs with _ | ⟨c, _ | ⟨d, cs⟩⟩
  · simp [Expr.ofFactors, Expr.depth]
  · simp [Expr.ofFactors, Expr.depth, plainExpr]
  · have h := hall (c :: d :: cs)
    simp only [List.map_cons] at h
    simp [Expr.ofFactors, Expr.depth, h]

/-- A quoted text is read as its characters. -/
theorem parse?_quote (cs : List Char) :
    Expr.parse? (Escape.quote cs) = some (.ofFactors (cs.map plainExpr)) := by
  have hlen := length_le_length_quote cs
  rw [Expr.parse?, Reader.readFrom_quote (by omega)]
  exact if_pos (Nat.le_trans (depth_ofFactors_plain cs) (by decide))

theorem parse?_anchor_quote (cs : List Char) :
    Expr.parse? (anchor (Escape.quote cs)) =
      some (.concat [.assertion .lineStart, .group (.plain []) (.ofFactors (cs.map plainExpr)),
        .assertion .lineEnd]) := by
  have hlen := length_le_length_quote cs
  have hanchor : (anchor (Escape.quote cs)).length + 1 = (Escape.quote cs).length + 7 := by
    simp [anchor]
  -- The first two steps read the opening anchor.
  have hread : Reader.readFrom ((Escape.quote cs).length + 7) .start (anchor (Escape.quote cs)) =
      some (.concat [.assertion .lineStart, .group (.plain []) (.ofFactors (cs.map plainExpr)),
        .assertion .lineEnd]) :=
    Reader.readFrom_inside_quote (n := (Escape.quote cs).length + 5) (by omega)
  have hdepth := depth_ofFactors_plain cs
  have hmax : Expr.maxDepth = 250 := rfl
  rw [Expr.parse?, hanchor, hread]
  apply if_pos
  simp only [Expr.depth, Expr.depthOfAll]
  omega

/-- The tree of one character. -/
def charTree (c : Char) : Tree := .literal (Utf8.encode [c])

theorem tree_plain (c : Char) : Literal.tree .default ⟨c, false⟩ = charTree c := by
  simp [Literal.tree, Literal.rawByte?, Flags.default, charTree]

theorem resolveAll?_plain (cs : List Char) :
    Tree.resolveAll? .default (cs.map plainExpr) = some (cs.map charTree, .default) := by
  induction cs with
  | nil => rfl
  | cons c cs ih =>
    rw [List.map_cons, plainExpr, Tree.resolveAll?]
    simp [Tree.resolve?, tree_plain, ih]

theorem fuse_literal_cons (xs : Bytes) {ys : Bytes} {ts rest : List Tree}
    (h : Tree.fuse ts = .literal ys :: rest) :
    Tree.fuse (.literal xs :: ts) = .literal (xs ++ ys) :: rest := by
  simp only [Tree.fuse, h]

theorem fuse_charTrees (c : Char) (cs : List Char) :
    Tree.fuse ((c :: cs).map charTree) = [.literal (Utf8.encode (c :: cs))] := by
  induction cs generalizing c with
  | nil => rfl
  | cons d cs ih =>
    have h : Utf8.encode (c :: d :: cs) = Utf8.encode [c] ++ Utf8.encode (d :: cs) := by simp
    rw [List.map_cons, h]
    exact fuse_literal_cons _ (ih d)

/-- The tree of a text of which every character stands for itself. -/
def plainTree (cs : List Char) : Tree := .ofFactors (cs.map charTree)

theorem factors_charTrees (cs : List Char) :
    (cs.map charTree).flatMap Tree.factors = cs.map charTree := by
  induction cs with
  | nil => rfl
  | cons c cs ih =>
    rw [List.map_cons, List.flatMap_cons, ih]
    rfl

theorem plainTree_nil : plainTree [] = .empty := rfl

theorem plainTree_cons (c : Char) (cs : List Char) :
    plainTree (c :: cs) = .literal (Utf8.encode (c :: cs)) := by
  rw [plainTree, Tree.ofFactors, factors_charTrees, fuse_charTrees]

theorem ofExpr?_plain (cs : List Char) :
    Tree.ofExpr? (.ofFactors (cs.map plainExpr)) = some (plainTree cs) := by
  match cs with
  | [] => rfl
  | [c] =>
    have h := plainTree_cons c []
    simp [Expr.ofFactors, Tree.ofExpr?, plainExpr, Tree.resolve?, tree_plain, h, charTree]
  | c :: d :: cs =>
    have h := resolveAll?_plain (c :: d :: cs)
    simp only [List.map_cons] at h
    simp [Expr.ofFactors, Tree.ofExpr?, Tree.resolve?, h, plainTree]

theorem bareTree_quote (cs : List Char) : bareTree (Escape.quote cs) = .ok (plainTree cs) :=
  bareTree_eq_ok_iff.mpr ⟨_, parse?_quote cs, ofExpr?_plain cs⟩

/-- A literal spans its own bytes and nothing else. -/
theorem spans_plainTree {s : Subject} {cs : List Char} {i j : Nat} :
    Tree.Spans s (plainTree cs) i j ↔
      Utf8.encode cs <+: s.text.drop i ∧ j = i + (Utf8.encode cs).length := by
  cases cs with
  | nil => simp [plainTree_nil, Tree.Spans, eq_comm]
  | cons c cs => rw [plainTree_cons, Tree.Spans]

/-- The tree of a quoted text between the anchors. -/
def wholeTree (cs : List Char) : Tree :=
  .ofFactors [.look .textStart, plainTree cs, .look .textEnd]

theorem bareTree_anchor_quote (cs : List Char) :
    bareTree (anchor (Escape.quote cs)) = .ok (wholeTree cs) := by
  have hinside := ofExpr?_plain cs
  rw [Tree.ofExpr?] at hinside
  obtain ⟨found, hfound, htree⟩ := Option.map_eq_some_iff.mp hinside
  refine bareTree_eq_ok_iff.mpr ⟨_, parse?_anchor_quote cs, ?_⟩
  have hchange : Flags.default.change [] = Flags.default := rfl
  simp only [Tree.ofExpr?, Tree.resolve?, Tree.resolveAll?, hchange, hfound, Option.map_some, htree]
  rfl

/-- Only its size can keep a quoted text from being compiled. -/
theorem compile_quote_eq (cs : List Char) :
    compile (Escape.quote cs) =
      if Automaton.fits (wholeTree cs) then .ok ⟨Escape.quote cs, wholeTree cs⟩
      else .error (.invalidPattern "pattern is too large") := by
  rw [compile, bareTree_anchor_quote]

theorem compile_quote {cs : List Char} {p : Pattern} (h : compile (Escape.quote cs) = .ok p) :
    p.text = Escape.quote cs ∧ p.tree = wholeTree cs := by
  obtain ⟨htext, htree⟩ := compile_eq_ok h
  exact ⟨htext, bareTree_anchor (bareTree_quote cs) htree⟩

/-- The pattern of a value matches that value and nothing else. -/
theorem isMatch_of_compile_quote {cs : List Char} {p : Pattern}
    (h : compile (Escape.quote cs) = .ok p) (value : Bytes) :
    p.isMatch value = true ↔ value = Utf8.encode cs := by
  rw [isMatch_iff_of_compile h (bareTree_quote cs), spans_plainTree]
  constructor
  · intro hspans
    obtain ⟨hstart, hlen⟩ := hspans
    exact (hstart.eq_of_length (by simpa using hlen.symm)).symm
  · intro hvalue
    rw [hvalue]
    exact ⟨List.prefix_refl _, (Nat.zero_add _).symm⟩

/-- A value that has a pattern is text, and the pattern is the quoted text. -/
theorem literal_eq_ok {value : Bytes} {p : Pattern} (h : literal value = .ok p) :
    ∃ cs, value = Utf8.encode cs ∧ compile (Escape.quote cs) = .ok p := by
  unfold literal at h
  split at h
  · cases h
  · next cs hcs => exact ⟨cs, Utf8.decode_eq_ok_iff.mp hcs, h⟩

theorem literal_eq_error {value : Bytes} {e : Error} (h : literal value = .error e) :
    ∃ reason, e = .invalidPattern reason := by
  unfold literal at h
  split at h
  · exact ⟨_, (Except.error.inj h).symm⟩
  · exact compile_eq_error h

theorem literal_encode (cs : List Char) :
    literal (Utf8.encode cs) = compile (Escape.quote cs) := by
  rw [literal, Utf8.decode_eq_ok_iff.mpr rfl]

/-- The pattern of a value matches that value only. -/
theorem isMatch_literal {value : Bytes} {p : Pattern} (h : literal value = .ok p) (x : Bytes) :
    p.isMatch x = true ↔ x = value := by
  obtain ⟨cs, rfl, hp⟩ := literal_eq_ok h
  exact isMatch_of_compile_quote hp x

end InvertedIndex.Pattern
