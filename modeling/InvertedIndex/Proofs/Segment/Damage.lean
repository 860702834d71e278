import InvertedIndex.Proofs.Checksum
import InvertedIndex.Proofs.Segment.Bounds
import InvertedIndex.Proofs.Segment.Build

namespace InvertedIndex.Segment

/-- The region of some data. -/
def Part.bytes? (d : Data) : Part → Option Bytes
  | docsData => d.docsData
  | docsIndex => d.docsIndex
  | postings => d.postings
  | keys => d.keys

namespace Data

/-- The data with other bytes for one region. -/
def replace (d : Data) (bs : Bytes) : Part → Data
  | .docsData => { d with docsData := some bs }
  | .docsIndex => { d with docsIndex := some bs }
  | .postings => { d with postings := some bs }
  | .keys => { d with keys := some bs }

end Data

namespace Regions

def replace (r : Regions) (bs : Bytes) : Part → Regions
  | .docsData => { r with docsData := bs }
  | .docsIndex => { r with docsIndex := bs }
  | .postings => { r with postings := bs }
  | .keys => { r with keys := bs }

theorem metadata_replace (r : Regions) (bs : Bytes) (p : Part) :
    (r.replace bs p).metadata = r.metadata := by
  cases p <;> rfl

theorem bytes_replace (r : Regions) (bs : Bytes) (p q : Part) :
    q.bytes (r.replace bs p) = if q = p then bs else q.bytes r := by
  cases p <;> cases q <;> rfl

end Regions

namespace Data

variable {d : Data} {r : Regions}

theorem Complete.bytes? (h : d.Complete r) (p : Part) : p.bytes? d = some (p.bytes r) := by
  cases p with
  | docsData => exact h.docsData
  | docsIndex => exact h.docsIndex
  | postings => exact h.postings
  | keys => exact h.keys

theorem Complete.replace (h : d.Complete r) (bs : Bytes) (p : Part) :
    (d.replace bs p).Complete (r.replace bs p) := by
  obtain ⟨metadata, docsData, docsIndex, postings, keys, major, postingsFormat⟩ := h
  cases p <;> constructor <;> first | assumption | rfl

/-- If one region alone has a wrong checksum, the data are refused for that region. -/
theorem validate_replace (h : d.validate = .ok r) {bs : Bytes} {p : Part}
    (hwrong : Checksum.crc32 bs ≠ p.stored r.metadata) :
    (d.replace bs p).validate =
      .error (.checksumMismatch p.name (p.stored r.metadata) (Checksum.crc32 bs)) := by
  obtain ⟨hcomplete, hright⟩ := validate_eq_ok_iff.mp h
  have hisWrong (q : Part) : q.isWrong (r.replace bs p) = decide (q = p) := by
    have hq := hright q
    rw [Part.isWrong, Regions.bytes_replace, Regions.metadata_replace]
    by_cases heq : q = p
    · subst heq
      simp [hwrong]
    · rw [Part.isWrong] at hq
      simp [heq, hq]
  have hfind : Part.all.find? (Part.isWrong (r.replace bs p)) = some p := by
    rw [funext hisWrong]
    cases p <;> decide
  have hmismatch : p.mismatch (r.replace bs p) =
      .checksumMismatch p.name (p.stored r.metadata) (Checksum.crc32 bs) := by
    rw [Part.mismatch, Regions.bytes_replace, Regions.metadata_replace, if_pos rfl]
  rw [validate_of_complete (hcomplete.replace bs p), hfind]
  exact congrArg Except.error hmismatch

end Data

open Checksum (DiffersWithin crc32)

/-- Damage of up to four bytes in a row is always found when a segment is opened, in whichever region it
is. The error names that region and has the checksum that the metadata keep for it. -/
theorem damaged_region_is_named {decode? : Bytes → Option KeyMap} {d : Data} {s : Immutable}
    (h : Immutable.openData decode? d = .ok s) (p : Part) :
    ∃ m bs old, d.metadata = some bs ∧ Metadata.decode bs = .ok m ∧ p.bytes? d = some old ∧
      ∀ new, DiffersWithin 4 old new →
        Immutable.openData decode? (d.replace new p) =
          .error (.checksumMismatch p.name (p.stored m) (crc32 new)) ∧
        crc32 new ≠ p.stored m := by
  obtain ⟨r, c, hvalid, -, -⟩ := Contents.openData_eq_ok h
  obtain ⟨hcomplete, hright⟩ := Data.validate_eq_ok_iff.mp hvalid
  obtain ⟨bs, hbs, hdecode⟩ := hcomplete.metadata
  refine ⟨r.metadata, bs, p.bytes r, hbs, hdecode, hcomplete.bytes? p, ?_⟩
  intro new hnew
  have hstored : crc32 (p.bytes r) = p.stored r.metadata := by
    have hp := hright p
    rwa [Part.isWrong, bne_eq_false_iff_eq] at hp
  have hwrong : crc32 new ≠ p.stored r.metadata := by
    rw [← hstored]
    exact (Checksum.crc32_ne_of_differsWithin hnew).symm
  exact ⟨Contents.openData_of_refused (Data.validate_replace hvalid hwrong), hwrong⟩

/-- Four bytes of the first number in an index are changed. -/
theorem damaged_region_is_named_letter :
    ∃ s expected,
      Immutable.openData KeyFormat.listed.decode? (Build.write .listed 7 [Session.letter 97]) = .ok s ∧
      Immutable.openData KeyFormat.listed.decode? ((Build.write .listed 7 [Session.letter 97]).replace
          [0, 0, 0, 0, 1, 2, 3, 4, 0, 0, 0, 0, 0, 0, 0, 0] .docsIndex) =
        .error (.checksumMismatch "documents index" expected
          (crc32 [0, 0, 0, 0, 1, 2, 3, 4, 0, 0, 0, 0, 0, 0, 0, 0])) ∧
      crc32 [0, 0, 0, 0, 1, 2, 3, 4, 0, 0, 0, 0, 0, 0, 0, 0] ≠ expected := by
  have haddressable : (Build.write .listed 7 [Session.letter 97]).Addressable := by decide +kernel
  have hopen := Build.openData_write (show (7 : PostingsId).toNat + 1 ≤ _ by decide) haddressable
  obtain ⟨m, bs, old, -, -, hold, hdamage⟩ := damaged_region_is_named hopen .docsIndex
  have hindex : old = [0, 0, 0, 0, 0, 0, 0, 7, 0, 0, 0, 0, 0, 0, 0, 0] :=
    (Option.some.inj hold).symm.trans (by decide)
  subst hindex
  have hdiffers : DiffersWithin 4 [0, 0, 0, 0, 0, 0, 0, 7, 0, 0, 0, 0, 0, 0, 0, 0]
      [0, 0, 0, 0, 1, 2, 3, 4, 0, 0, 0, 0, 0, 0, 0, 0] :=
    Checksum.differsWithin_iff.mpr
      ⟨[0, 0, 0, 0], [0, 0, 0, 7], [1, 2, 3, 4], [0, 0, 0, 0, 0, 0, 0, 0], by decide⟩
  obtain ⟨herror, hne⟩ := hdamage _ hdiffers
  exact ⟨_, _, hopen, herror, hne⟩

end InvertedIndex.Segment
