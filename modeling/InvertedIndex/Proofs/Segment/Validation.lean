import InvertedIndex.Segment.Data

namespace InvertedIndex.Segment

/-- The regions that have checksums. -/
inductive Part where
  | docsData
  | docsIndex
  | postings
  | keys
  deriving DecidableEq

namespace Part

/-- In the order in which their checksums are compared. -/
def all : List Part := [docsData, docsIndex, postings, keys]

def name : Part → String
  | docsData => "documents data"
  | docsIndex => "documents index"
  | postings => "postings data"
  | keys => "fields fst"

def bytes (r : Regions) : Part → Bytes
  | docsData => r.docsData
  | docsIndex => r.docsIndex
  | postings => r.postings
  | keys => r.keys

/-- The checksum that the metadata have for a region. -/
def stored (m : Metadata) : Part → UInt32
  | docsData => m.checksums.docsData
  | docsIndex => m.checksums.docsIndex
  | postings => m.checksums.postings
  | keys => m.checksums.keys

def isWrong (r : Regions) (p : Part) : Bool := Checksum.crc32 (p.bytes r) != p.stored r.metadata

def mismatch (r : Regions) (p : Part) : Error :=
  .checksumMismatch p.name (p.stored r.metadata) (Checksum.crc32 (p.bytes r))

theorem mem_all (p : Part) : p ∈ all := by cases p <;> decide

end Part

namespace Data

/-- All regions are there, and the metadata are of a kind that is known. -/
structure Complete (d : Data) (r : Regions) : Prop where
  metadata : ∃ bs, d.metadata = some bs ∧ Metadata.decode bs = .ok r.metadata
  docsData : d.docsData = some r.docsData
  docsIndex : d.docsIndex = some r.docsIndex
  postings : d.postings = some r.postings
  keys : d.keys = some r.keys
  major : r.metadata.major = Metadata.majorVersion
  postingsFormat : r.metadata.postingsFormat = Metadata.roaringFormat

theorem verify_part (r : Regions) (p : Part) :
    verify (p.bytes r) p.name (p.stored r.metadata) =
      if p.isWrong r then .error (p.mismatch r) else .ok () := by
  by_cases h : Checksum.crc32 (p.bytes r) = p.stored r.metadata
  · simp [verify, Part.isWrong, h]
  · simp [verify, Part.isWrong, Part.mismatch, h]

/-- Complete data fail at the first region whose checksum is wrong. -/
theorem validate_of_complete {d : Data} {r : Regions} (h : d.Complete r) :
    d.validate = match Part.all.find? (Part.isWrong r) with
      | none => .ok r
      | some p => .error (p.mismatch r) := by
  obtain ⟨bs, hbs, hdecode⟩ := h.metadata
  have hverify : d.validate = do
      verify (Part.docsData.bytes r) Part.docsData.name (Part.docsData.stored r.metadata)
      verify (Part.docsIndex.bytes r) Part.docsIndex.name (Part.docsIndex.stored r.metadata)
      verify (Part.postings.bytes r) Part.postings.name (Part.postings.stored r.metadata)
      verify (Part.keys.bytes r) Part.keys.name (Part.keys.stored r.metadata)
      return r := by
    simp only [validate, hbs, h.docsData, h.docsIndex, h.postings, h.keys, require, bind,
      Except.bind, hdecode, h.major, h.postingsFormat, ne_eq, not_true_eq_false, if_false, pure,
      Except.pure]
    rfl
  rw [hverify]
  simp only [verify_part, Part.all, List.find?_cons, List.find?_nil, bind, Except.bind, pure,
    Except.pure]
  cases Part.docsData.isWrong r with
  | true => rfl
  | false =>
    cases Part.docsIndex.isWrong r with
    | true => rfl
    | false => cases Part.postings.isWrong r <;> cases Part.keys.isWrong r <;> rfl

theorem isFormatError_of_decode {bs : Bytes} {e : Error} (h : Metadata.decode bs = .error e) :
    e.isFormatError = true := by
  unfold Metadata.decode at h
  split at h
  · cases h
  · rw [← Except.error.inj h]
    rfl

/-- Data that are not complete are refused before a checksum is looked at. -/
theorem complete_or_refused (d : Data) :
    (∃ r, d.Complete r) ∨ ∃ e, d.validate = .error e ∧ e.isFormatError = true := by
  obtain ⟨metadata, docsData, docsIndex, postings, keys⟩ := d
  cases metadata with
  | none => exact .inr ⟨_, rfl, rfl⟩
  | some metadata =>
  cases docsData with
  | none => exact .inr ⟨_, rfl, rfl⟩
  | some docsData =>
  cases docsIndex with
  | none => exact .inr ⟨_, rfl, rfl⟩
  | some docsIndex =>
  cases postings with
  | none => exact .inr ⟨_, rfl, rfl⟩
  | some postings =>
  cases keys with
  | none => exact .inr ⟨_, rfl, rfl⟩
  | some keys =>
  cases hdecode : Metadata.decode metadata with
  | error e =>
    refine .inr ⟨e, ?_, isFormatError_of_decode hdecode⟩
    simp only [validate, require, bind, Except.bind, hdecode]
  | ok m =>
    by_cases hmajor : m.major = Metadata.majorVersion
    · by_cases hformat : m.postingsFormat = Metadata.roaringFormat
      · exact .inl ⟨⟨m, docsData, docsIndex, postings, keys⟩,
          ⟨⟨metadata, rfl, hdecode⟩, rfl, rfl, rfl, rfl, hmajor, hformat⟩⟩
      · refine .inr ⟨.unsupportedPostingsFormat m.postingsFormat, ?_, rfl⟩
        simp [validate, require, bind, Except.bind, hdecode, hmajor, hformat, throw, throwThe,
          MonadExceptOf.throw]
    · refine .inr ⟨.unsupportedVersion Metadata.majorVersion m.major, ?_, rfl⟩
      simp [validate, require, bind, Except.bind, hdecode, hmajor, throw, throwThe,
        MonadExceptOf.throw]

/-- Data pass if they are complete and no checksum is wrong. -/
theorem validate_eq_ok_iff {d : Data} {r : Regions} :
    d.validate = .ok r ↔ d.Complete r ∧ ∀ p : Part, p.isWrong r = false := by
  have hnone (r : Regions) :
      Part.all.find? (Part.isWrong r) = none ↔ ∀ p : Part, p.isWrong r = false := by
    rw [List.find?_eq_none]
    constructor
    · exact fun h p => eq_false_of_ne_true (h p p.mem_all)
    · intro h p _
      rw [h p]
      decide
  constructor
  · intro h
    rcases complete_or_refused d with ⟨s, hs⟩ | ⟨e, he, -⟩
    · rw [validate_of_complete hs] at h
      split at h
      · next hfind =>
        cases h
        exact ⟨hs, (hnone r).mp hfind⟩
      · cases h
    · rw [h] at he
      cases he
  · intro h
    rw [validate_of_complete h.1, (hnone r).mpr h.2]

/-- Whatever is refused is refused for its format. -/
theorem isFormatError_of_validate {d : Data} {e : Error} (h : d.validate = .error e) :
    e.isFormatError = true := by
  rcases complete_or_refused d with ⟨r, hr⟩ | ⟨e', he', hformat⟩
  · rw [validate_of_complete hr] at h
    split at h
    · cases h
    · rw [← Except.error.inj h]
      rfl
  · rw [h] at he'
    rwa [Except.error.inj he']

end Data

end InvertedIndex.Segment
