import InvertedIndex.Proofs.Pattern.Anchor
import InvertedIndex.Proofs.Segment.Build
import InvertedIndex.Segment.KeyAutomaton

namespace InvertedIndex.Segment

section

variable {σ : Type}

theorem TermAutomaton.accepts_ofTree (t : Pattern.Tree) (term : Bytes) :
    (ofTree t).accepts term = t.isWholeMatch term := by
  have hread : ∀ read : Bytes, term.foldl (ofTree t).next read = term.reverse ++ read := by
    intro read
    induction term generalizing read with
    | nil => rfl
    | cons b bs ih => rw [List.foldl_cons, ih, List.reverse_cons, List.append_assoc]; rfl
  rw [accepts, hread]
  change t.isWholeMatch (term.reverse ++ []).reverse = _
  rw [List.append_nil, List.reverse_reverse]

/-- The automaton accepts what the tree of a text matches as a whole. -/
def TermAutomaton.Reads (a : TermAutomaton σ) (text : List Char) : Prop :=
  ∃ t, Pattern.bareTree text = .ok t ∧ ∀ term, a.accepts term = t.isWholeMatch term

theorem TermAutomaton.reads_ofTree {text : List Char} {t : Pattern.Tree}
    (h : Pattern.automaton? text = some t) : (ofTree t).Reads text := by
  obtain ⟨htree, -⟩ := Option.filter_eq_some_iff.mp h
  refine ⟨t, ?_, accepts_ofTree t⟩
  rw [Pattern.bareTree, htree]

namespace KeyAutomaton

variable {a : KeyAutomaton σ}

theorem run_dead (bs : Bytes) : a.run .dead bs = false := by
  cases bs <;> rfl

/-- Giving up in a dead state loses nothing. -/
theorem run_inTerm (s : σ) (bs : Bytes) :
    a.run (.inTerm s) bs = a.terms.isAccepting (bs.foldl a.terms.next s) := by
  induction bs generalizing s with
  | nil => rfl
  | cons b bs ih =>
    rw [run, canMatch, Bool.true_and, accept, List.foldl_cons]
    split
    · next hdead => rw [run_dead, a.terms.rejects_of_isDead _ bs hdead]
    · exact ih _

/-- From a place in front of the term on, the key has to go on with what is left there. -/
theorem run_inFront {place : Nat} (h : place < a.front.length) (bs : Bytes) :
    a.run (.inFront place) bs = true ↔
      ∃ term, bs = a.front.drop place ++ term ∧ a.terms.accepts term = true := by
  induction bs generalizing place with
  | nil =>
    rw [List.drop_eq_getElem_cons h]
    refine iff_of_false Bool.false_ne_true ?_
    intro hterm
    obtain ⟨term, hterm, -⟩ := hterm
    cases hterm
  | cons b bs ih =>
    rw [run, canMatch, Bool.true_and, accept, List.drop_eq_getElem_cons h]
    split
    · next hb =>
      obtain ⟨-, rfl⟩ := List.getElem?_eq_some_iff.mp hb
      simp only [List.cons_append, List.cons.injEq, true_and]
      split
      · next hlast =>
        rw [run_inTerm, hlast, List.drop_length]
        simp [TermAutomaton.accepts]
      · exact ih (by omega)
    · next hb =>
      rw [run_dead]
      refine iff_of_false Bool.false_ne_true ?_
      intro hterm
      obtain ⟨term, heq, -⟩ := hterm
      rw [List.cons_append, List.cons.injEq] at heq
      exact hb (by rw [heq.1, List.getElem?_eq_getElem h])

/-- The automaton for a field accepts the keys of the terms that are accepted. -/
theorem accepts_new_iff {field key : Bytes} {terms : TermAutomaton σ} :
    (new field terms).accepts key = true ↔
      ∃ term, key = Key.encode field term ∧ terms.accepts term = true := by
  have hfront : 0 < (new field terms).front.length := by
    have hlen : (new field terms).front.length = field.length + Document.separatorBytes.length :=
      List.length_append
    rw [hlen, Key.separatorBytes_eq]
    exact Nat.succ_pos _
  exact run_inFront hfront key

end KeyAutomaton

end

namespace Contents

open Mutable (idAt hasMatch)
open Build (build merge)

variable {c : Contents} {base : PostingsId} {ds : List Document}

/-- A scan over keys of one field is a union over those whose terms match. -/
theorem scan_eq_unionAt {field : Bytes} (p : Pattern) {entries : List (Bytes × UInt64)}
    (h : ∀ e ∈ entries, ∃ value, e.1 = Key.encode field value ∧ Key.decode e.1 = .ok (field, value))
    (found : Postings) :
    c.scan p found entries = c.unionAt found
      ((entries.filter fun e => p.isMatch (e.1.drop (Key.start field).length)).map Prod.snd) := by
  induction entries generalizing found with
  | nil => rfl
  | cons e entries ih =>
    obtain ⟨key, stop⟩ := e
    obtain ⟨value, hkey, hdecode⟩ := h (key, stop) (by simp)
    dsimp only at hkey hdecode
    have hrest := ih fun e he => h e (by simp [he])
    have hvalue : key.drop (Key.start field).length = value := by
      rw [hkey]
      exact List.drop_left
    rw [scan, hdecode, List.filter_cons, hvalue]
    dsimp only
    split
    · rw [List.map_cons, unionAt]
      cases c.postingsAt stop with
      | error e => rfl
      | ok q => exact hrest _
    · exact hrest found

theorem mem_stopsMatching {σ : Type} {a : TermAutomaton σ} {field : Bytes} {stop : UInt64} :
    stop ∈ c.stopsMatching (.new field a) ↔
      ∃ value, (Key.encode field value, stop) ∈ c.keys.entries ∧ a.accepts value = true := by
  rw [stopsMatching, List.mem_map]
  constructor
  · intro h
    obtain ⟨⟨key, stop⟩, hentry, rfl⟩ := h
    obtain ⟨hmem, hkey⟩ := List.mem_filter.mp hentry
    obtain ⟨term, rfl, hterm⟩ := KeyAutomaton.accepts_new_iff.mp hkey
    exact ⟨term, hmem, hterm⟩
  · intro h
    obtain ⟨value, hmem, hvalue⟩ := h
    refine ⟨(Key.encode field value, stop), List.mem_filter.mpr ⟨hmem, ?_⟩, rfl⟩
    exact KeyAutomaton.accepts_new_iff.mpr ⟨value, rfl, hvalue⟩

theorem mem_stops_filter {test : Bytes → Bool} {field : Bytes} {stop : UInt64} :
    stop ∈ ((c.entriesOf field).filter fun e => test (e.1.drop (Key.start field).length)).map Prod.snd ↔
      ∃ value, (Key.encode field value, stop) ∈ c.keys.entries ∧ test value = true := by
  have hdrop (value : Bytes) : (Key.encode field value).drop (Key.start field).length = value :=
    List.drop_left
  rw [List.mem_map]
  constructor
  · intro h
    obtain ⟨⟨key, stop⟩, hentry, rfl⟩ := h
    obtain ⟨hfield, htest⟩ := List.mem_filter.mp hentry
    obtain ⟨value, rfl, hmem⟩ := mem_entriesOf_iff.mp hfield
    rw [hdrop] at htest
    exact ⟨value, hmem, htest⟩
  · intro h
    obtain ⟨value, hmem, htest⟩ := h
    refine ⟨(Key.encode field value, stop), List.mem_filter.mpr ⟨?_, ?_⟩, rfl⟩
    · exact mem_entriesOf_iff.mpr ⟨value, rfl, hmem⟩
    · rw [hdrop]
      exact htest

/-- Both ways lead to the documents with a matching value. -/
theorem Represents.matchBy_eq (h : c.Represents base ds) {σ : Type} {a? : Option (TermAutomaton σ)}
    {p : Pattern} (ha : ∀ a, a? = some a → ∀ value, a.accepts value = p.isMatch value)
    (field : Bytes) :
    ∃ list, c.matchBy a? field p = .ok list ∧ list.Proper ∧
      list.toList = numbersOf base ds (hasMatch · field p) := by
  cases a? with
  | some a =>
    have hP : ∀ d, hasMatch d field p = true ↔
        ∃ value, ⟨field, value⟩ ∈ Mutable.termsOf d ∧ a.accepts value = true := by
      intro d
      simp only [ha a rfl]
      exact Mutable.hasMatch_iff
    exact h.unionAt_having (fun stop => mem_stopsMatching) hP
  | none =>
    have hdecode : ∀ e ∈ c.entriesOf field,
        ∃ value, e.1 = Key.encode field value ∧ Key.decode e.1 = .ok (field, value) := by
      intro e he
      obtain ⟨key, stop⟩ := e
      obtain ⟨value, rfl, hfield, -⟩ := h.mem_entriesOf he
      exact ⟨value, rfl, Key.decode_encode hfield value⟩
    rw [matchBy, scan_eq_unionAt p hdecode]
    exact h.unionAt_having (fun stop => mem_stops_filter) fun d => Mutable.hasMatch_iff

/-- An open segment that keeps values finds its documents with a matching value. -/
theorem matchPattern_mutable {s : Mutable} (h : s.Represents ds) (hbase : s.offset = base)
    (hstrategy : s.dictionary.strategy = .exact) (hopen : s.isClosed = false) {p : Pattern}
    (hp : Pattern.compile p.text = .ok p) (field : Bytes) :
    ∃ a, s.query (·.matchPattern field p) = .ok a ∧
      (s.dictionary.read a).toList = numbersOf base ds (hasMatch · field p) := by
  obtain ⟨a, ha⟩ : ∃ a, s.dictionary.matchPattern field p = .ok a := by
    cases hd : s.dictionary with
    | exact e => exact ⟨_, rfl⟩
    | trigram e =>
      rw [hd] at hstrategy
      cases hstrategy
  have hproper : (s.dictionary.read a).Proper := Dictionary.proper_read_matchPattern h.dictionary ha
  refine ⟨a, ?_, ?_⟩
  · rw [Mutable.query, Mutable.checkOpen, hopen]
    exact ha
  · subst hbase
    apply toList_eq_numbersOf h.watermark hproper
    intro id
    rw [Dictionary.contains_read_matchPattern h.dictionary hp ha]
    simp only [Mutable.mem_logOf, Mutable.hasMatch_iff]
    constructor
    · intro hid
      obtain ⟨value, ⟨i, d, hd, hnumber, hterm⟩, hmatch⟩ := hid
      exact ⟨i, d, hd, hnumber, value, hterm, hmatch⟩
    · intro hid
      obtain ⟨i, d, hd, hnumber, value, hterm, hmatch⟩ := hid
      exact ⟨value, ⟨i, d, hd, hnumber, hterm⟩, hmatch⟩

/-- A pattern finds in what was built the documents with a value that it matches, be it by an automaton
for its bare text or, where there is none, by testing every term. An open segment that keeps the values
of the same documents under the same numbers answers the same. -/
theorem matchPattern_built {format : KeyFormat} {sources : List Source}
    (hmade : ∀ source ∈ sources, source.Made format) {d : Data}
    (hd : build format base sources = .ok d) (hsize : d.Addressable) {text : List Char} {p : Pattern}
    (hp : Pattern.compile text = .ok p) :
    ∃ ds c, merge sources = .ok ds ∧ Immutable.openData format.decode? d = .ok ⟨some c⟩ ∧
      ∀ field,
        (∃ list, c.matchPattern field p = .ok list ∧
          list.toList = numbersOf base ds (hasMatch · field p)) ∧
        (∀ (σ : Type) (a? : Option (TermAutomaton σ)), (∀ a, a? = some a → a.Reads text) →
          ∃ list, c.matchBy a? field p = .ok list ∧
            list.toList = numbersOf base ds (hasMatch · field p)) ∧
        ∀ (options : Options) (generator : Nat → Bytes) (ops : List Session.Op) (s : Mutable),
          s = ((Session.new options generator).run ops).segment → options.strategy = .exact →
          options.offset = base → s.committed = .ok ds → s.isClosed = false →
          ∃ a, s.query (·.matchPattern field p) = .ok a ∧
            (s.dictionary.read a).toList = numbersOf base ds (hasMatch · field p) := by
  obtain ⟨htext, -⟩ := Pattern.compile_eq_ok hp
  have hands := fun source hs => Build.hands_of_made (hmade source hs)
  obtain ⟨ds, hds, -, hopened, hc⟩ := Build.opened_of_build hands hd hsize
  have hby (field : Bytes) (σ : Type) (a? : Option (TermAutomaton σ))
      (ha : ∀ a, a? = some a → a.Reads text) :
      ∃ list, (Build.contentsOf format base ds).matchBy a? field p = .ok list ∧
        list.toList = numbersOf base ds (hasMatch · field p) := by
    have haccepts : ∀ a, a? = some a → ∀ value, a.accepts value = p.isMatch value := by
      intro a hsome value
      obtain ⟨t, ht, hwhole⟩ := ha a hsome
      rw [hwhole, Pattern.isMatch_eq_isWholeMatch hp ht]
    obtain ⟨list, hlist, -, hnumbers⟩ := hc.matchBy_eq haccepts field
    exact ⟨list, hlist, hnumbers⟩
  refine ⟨ds, Build.contentsOf format base ds, hds, hopened, fun field => ⟨?_, hby field, ?_⟩⟩
  · apply hby field
    intro a ha
    obtain ⟨t, ht, rfl⟩ := Option.map_eq_some_iff.mp ha
    rw [htext] at ht
    exact TermAutomaton.reads_ofTree ht
  · intro options generator ops s hs hstrategy hbase hcommitted hopen
    subst hs
    obtain ⟨docs, hdocs⟩ := Session.represents_run_new options generator ops
    obtain rfl : docs = ds := Except.ok.inj (hdocs.committed_eq.symm.trans hcommitted)
    have hoffset := (Session.offset_run_new options generator ops).trans hbase
    have hexact := (Session.strategy_run_new options generator ops).trans hstrategy
    exact matchPattern_mutable hdocs hoffset hexact hopen (by rw [htext]; exact hp) field

/-- The only value of a field is found by the automaton, by the scan and by a segment that keeps it. -/
theorem matchPattern_built_letter :
    ∃ d c p, build .listed 7 [.letters [97] []] = .ok d ∧
      Immutable.openData KeyFormat.listed.decode? d = .ok ⟨some c⟩ ∧ Pattern.compile ['[', 'u', '-', 'w', ']'] = .ok p ∧
      (∃ list, c.matchPattern (Bytes.ofText "n") p = .ok list ∧ list.toList = [7]) ∧
      (∃ t, Pattern.bareTree ['[', 'u', '-', 'w', ']'] = .ok t ∧
        ∃ list, c.matchBy (some (.ofTree t)) (Bytes.ofText "n") p = .ok list ∧ list.toList = [7]) ∧
      (∃ list, c.matchBy (none : Option (TermAutomaton Unit)) (Bytes.ofText "n") p = .ok list ∧
        list.toList = [7]) ∧
      ∃ s, s = ((Session.new ⟨0, 7, .exact⟩ fun _ => []).run [.insert (Session.letter 97)]).segment ∧
        ∃ a, s.query (·.matchPattern (Bytes.ofText "n") p) = .ok a ∧
          (s.dictionary.read a).toList = [7] := by
  have hmade : ∀ source ∈ [Source.letters [97] []], source.Made .listed := by simp [Source.made_letters]
  have haddressable : (Build.write .listed 7 [Session.letter 97]).Addressable := by decide +kernel
  obtain ⟨p, hp, hnumbers⟩ : ∃ p, Pattern.compile ['[', 'u', '-', 'w', ']'] = .ok p ∧
      numbersOf 7 [Session.letter 97] (hasMatch · (Bytes.ofText "n") p) = [7] :=
    ⟨_, rfl, by decide +kernel⟩
  obtain ⟨t, ht⟩ : ∃ t, Pattern.bareTree ['[', 'u', '-', 'w', ']'] = .ok t := ⟨_, rfl⟩
  obtain ⟨ds, c, hds, hc, hanswers⟩ :=
    matchPattern_built (d := Build.write .listed 7 [Session.letter 97]) hmade
      (rfl : build .listed 7 _ = _) haddressable hp
  have hletter : ds = [Session.letter 97] := Except.ok.inj (hds.symm.trans rfl)
  subst hletter
  obtain ⟨hpattern, hby, hsession⟩ := hanswers (Bytes.ofText "n")
  rw [hnumbers] at hpattern
  simp only [hnumbers] at hby hsession
  refine ⟨_, c, p, rfl, hc, hp, hpattern, ⟨t, ht, ?_⟩, ?_, _, rfl, ?_⟩
  · apply hby
    intro a ha
    rw [← Option.some.inj ha]
    exact ⟨t, ht, TermAutomaton.accepts_ofTree t⟩
  · apply hby
    intro a ha
    cases ha
  · exact hsession ⟨0, 7, .exact⟩ (fun _ => []) [.insert (Session.letter 97)] _ rfl rfl rfl rfl rfl

end Contents

end InvertedIndex.Segment
