import InvertedIndex.Proofs.Postings.Format
import Mathlib.Data.List.Induction

namespace InvertedIndex.Postings

open Bytes

namespace Block

theorem extends_readArray? (key card : Nat) : Extends (readArray? key card) := by
  have hlows (lows : List Nat) : Extends fun rest =>
      if isAscending lows then some ((⟨key, .array, .ofList lows⟩ : Block), rest) else none :=
    (extends_some _).ite extends_none
  refine (extends_words? 2 card).bind hlows fun bs => ?_
  rw [readArray?]
  cases Bytes.words? 2 card bs <;> rfl

theorem extends_readBitmap? (key card : Nat) : Extends (readBitmap? key card) := by
  have hbits (bits : Bytes) : Extends fun rest =>
      if (bitmapMembers bits).length = card then
        some ((⟨key, .bitmap, .ofList (bitmapMembers bits)⟩ : Block), rest)
      else none := (extends_some _).ite extends_none
  refine (extends_split? bitmapSize).bind hbits fun bs => ?_
  rw [readBitmap?]
  cases bs.split? bitmapSize <;> rfl

theorem extends_readRuns? (key : Nat) : Extends (readRuns? key) := by
  have hends (ends : List Nat) : Extends fun rest => (runs? ends).map fun runs =>
      ((⟨key, .ofSize (lengthOfRuns ends), .unionOf runs⟩ : Block), rest) := by
    cases runs? ends with
    | none => exact extends_none
    | some runs => exact extends_some _
  refine (extends_word? 2).bind (fun count => (extends_words? 2 (2 * count)).bind hends fun bs => rfl)
    fun bs => ?_
  rw [readRuns?]
  cases bs.word? 2 with
  | none => rfl
  | some count =>
    dsimp only [Option.bind_some]
    cases Bytes.words? 2 (2 * count.1) count.2 <;> rfl

/-- The reader of a block looks at nothing behind it, whichever form the block has. -/
theorem extends_read? (isRuns : Bool) (key card : Nat) : Extends (read? isRuns key card) := by
  refine (extends_readRuns? key).ite ?_
  cases Form.ofSize card with
  | array => exact extends_readArray? key card
  | bitmap => exact extends_readBitmap? key card

end Block

theorem extends_readBlocks? (descriptors : List Nat) (isRuns : List Bool) :
    Extends (readBlocks? descriptors isRuns) := by
  induction descriptors using List.twoStepInduction generalizing isRuns with
  | nil => exact extends_some []
  | singleton => exact extends_some []
  | cons_cons key less rest ih =>
    have hread := Block.extends_read? (isRuns.headD false) key (less + 1)
    refine hread.bind (fun b => (ih isRuns.tail).map (b :: ·)) fun bs => ?_
    rw [readBlocks?]
    cases Block.read? (isRuns.headD false) key (less + 1) bs <;> rfl

theorem extends_header? : Extends header? := by
  have hplain : Extends fun bs => (bs.word? 4).bind fun size =>
      some ((⟨size.1, [], true⟩ : Header), size.2) :=
    (extends_word? 4).bind (fun size => extends_some ⟨size, [], true⟩) fun bs => rfl
  have hruns (count : Nat) : Extends fun bs => (bs.split? ((count + 7) / 8)).bind fun flags =>
      some ((⟨count, bits flags.1, offsetThreshold ≤ count⟩ : Header), flags.2) :=
    (extends_split? ((count + 7) / 8)).bind
      (fun flags => extends_some ⟨count, bits flags, offsetThreshold ≤ count⟩) fun bs => rfl
  have hcookie (cookie : Nat) := hplain.ite (c := cookie = plainCookie)
    ((hruns (cookie / 65536 + 1)).ite (c := cookie % 65536 = runCookie) extends_none)
  exact (extends_word? 4).bind hcookie fun bs => rfl

/-- The reader of a list takes bytes one after the other and looks at no others. -/
theorem extends_decode? : Extends decode? := by
  have hblocks (header : Header) (descriptors : List Nat) : Extends fun bs =>
      (readBlocks? descriptors header.isRuns bs).bind fun part =>
        some ((⟨part.1⟩ : Postings), part.2) :=
    (extends_readBlocks? descriptors header.isRuns).bind (fun blocks => extends_some ⟨blocks⟩)
      fun bs => rfl
  have hstarts (header : Header) (descriptors : List Nat) :=
    ((extends_split? (4 * header.size)).bind (fun _ => hblocks header descriptors) fun bs => rfl).ite
      (c := header.hasStarts) (hblocks header descriptors)
  have hheader (header : Header) := extends_none.ite (c := maxBlocks < header.size)
    ((extends_words? 2 (2 * header.size)).bind (hstarts header) fun bs => rfl)
  exact extends_header?.bind hheader fun bs => rfl

theorem decode_append {p : Postings} (h : p.Canonical) (more : Bytes) :
    decode (p.encode ++ more) = .ok p := by
  rw [decode, decode?_encode h more]

/-- A list that was written can be read only as a whole. -/
theorem decode_take {p : Postings} (h : p.Canonical) {n : Nat} (hn : n < p.encode.length) :
    decode (p.encode.take n) = .error (.format "invalid postings payload") := by
  have hall := decode?_encode h []
  rw [List.append_nil] at hall
  rw [decode, extends_decode?.eq_none hall hn]

end InvertedIndex.Postings
