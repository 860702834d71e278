import InvertedIndex.Proofs.Document.Record
import InvertedIndex.Proofs.Postings.Format
import InvertedIndex.Proofs.Results
import InvertedIndex.Proofs.Segment.Metadata
import InvertedIndex.Segment.Data
import InvertedIndex.Segment.DocsRegion
import InvertedIndex.Segment.PostingsRegion

namespace InvertedIndex.Segment

open Postings (Canonical)

namespace PostingsRegion

/-- An entry is read at the place where it ends, whatever stands before it and behind it. -/
theorem read_entry (front back : Bytes) {p : Postings} (h : p.Canonical) :
    read (front ++ entry p ++ back) (front.length + (entry p).length) = .ok p := by
  have hentry : (entry p).length = p.encode.length + 16 := by
    simp [entry]
  have hmagic : ((front ++ entry p ++ back).slice (front.length + (entry p).length - 8) 8).toBE =
      magic := by
    have hparts : front ++ entry p ++ back =
        (front ++ p.encode ++ Bytes.ofBE 8 p.encode.length) ++ Bytes.ofBE 8 magic ++ back := by
      simp [entry]
    have hstart : (front ++ p.encode ++ Bytes.ofBE 8 p.encode.length).length =
        front.length + (entry p).length - 8 := by
      simp only [List.length_append, Bytes.length_ofBE]
      omega
    rw [hparts, Bytes.slice_of_length hstart (Bytes.length_ofBE 8 magic),
      Bytes.toBE_ofBE_of_lt (by decide)]
  have hsizes : ((front ++ entry p ++ back).slice
      (front.length + (entry p).length - trailerSize) 8).toBE = p.encode.length := by
    have hparts : front ++ entry p ++ back =
        (front ++ p.encode) ++ Bytes.ofBE 8 p.encode.length ++ (Bytes.ofBE 8 magic ++ back) := by
      simp [entry]
    have hstart : (front ++ p.encode).length =
        front.length + (entry p).length - trailerSize := by
      rw [List.length_append, trailerSize]
      omega
    rw [hparts, Bytes.slice_of_length hstart (Bytes.length_ofBE 8 _),
      Bytes.toBE_ofBE_of_lt (Postings.length_encode_lt h)]
  have hpayload : (front ++ entry p ++ back).slice
      (front.length + (entry p).length - trailerSize - p.encode.length) p.encode.length =
        p.encode := by
    have hparts : front ++ entry p ++ back = front ++ p.encode ++
        (Bytes.ofBE 8 p.encode.length ++ Bytes.ofBE 8 magic ++ back) := by
      simp [entry]
    have hstart : front.length =
        front.length + (entry p).length - trailerSize - p.encode.length := by
      rw [trailerSize]
      omega
    rw [hparts, Bytes.slice_of_length hstart rfl]
  have hinside : ¬ (front.length + (entry p).length < trailerSize ∨
      (front ++ entry p ++ back).length < front.length + (entry p).length) := by
    rw [List.length_append, List.length_append, trailerSize]
    omega
  have hroom : ¬ front.length + (entry p).length - trailerSize < p.encode.length := by
    rw [trailerSize]
    omega
  rw [read, if_neg hinside]
  simp only [hmagic, hsizes, ne_eq, not_true_eq_false, if_false, if_neg hroom, hpayload]
  exact Postings.decode_encode h

/-- The entries of a region, each with the place where it ends. -/
theorem read_of_mem_zip {ps : List Postings} (h : ∀ p ∈ ps, p.Canonical) (front back : Bytes)
    {p : Postings} {stop : Nat} (hp : (p, stop) ∈ ps.zip (stops front.length ps)) :
    stop ≤ (front ++ encode ps ++ back).length ∧
      read (front ++ encode ps ++ back) stop = .ok p := by
  induction ps generalizing front with
  | nil => simp at hp
  | cons q ps ih =>
    rw [stops, List.zip_cons_cons, List.mem_cons] at hp
    cases hp with
    | inl hp =>
      cases hp
      have hregion : front ++ encode (p :: ps) ++ back =
          front ++ entry p ++ (encode ps ++ back) := by
        simp [encode]
      rw [hregion]
      refine ⟨?_, read_entry front (encode ps ++ back) (h p (by simp))⟩
      rw [List.length_append, List.length_append]
      omega
    | inr hp =>
      have hnext : front ++ encode (q :: ps) ++ back = (front ++ entry q) ++ encode ps ++ back := by
        simp [encode]
      rw [hnext]
      apply ih (fun p hp => h p (by simp [hp]))
      rwa [List.length_append]

end PostingsRegion

namespace DocsIndex

theorem toNat_number {n : Nat} (h : n ≤ PostingsId.last.toNat) : (UInt32.ofNat n).toNat = n :=
  UInt32.toNat_ofNat_of_lt' (Nat.lt_succ_of_le h)

/-- The records of documents, found by their places. -/
theorem readRecord_of_mem_zip {ds : List Document} (hid : ∀ d ∈ ds, d.id ≠ some [])
    (front : Bytes) (hsize : (ds.flatMap Document.record).length < UInt64.size) {d : Document} {start : Nat}
    (hd : (d, start) ∈ ds.zip (DocsRegion.places front.length ds)) :
    start < (front ++ ds.flatMap Document.record).length ∧
      (Document.readRecord ((front ++ ds.flatMap Document.record).drop start)).map Prod.fst =
        .ok d := by
  induction ds generalizing front with
  | nil => simp at hd
  | cons e ds ih =>
    rw [DocsRegion.places, List.zip_cons_cons, List.mem_cons] at hd
    rw [List.flatMap_cons, List.length_append] at hsize
    cases hd with
    | inl hd =>
      cases hd
      have hsome := Document.two_le_length_record d
      refine ⟨?_, ?_⟩
      · rw [List.flatMap_cons, List.length_append, List.length_append]
        omega
      · rw [List.drop_left, List.flatMap_cons,
          Document.readRecord_record (Document.addressable_of_record (by omega)),
          Document.stored_eq (hid d (by simp))]
        rfl
    | inr hd =>
      have hnext : front ++ (e :: ds).flatMap Document.record =
          (front ++ e.record) ++ ds.flatMap Document.record := by
        simp
      rw [hnext]
      apply ih (fun d hd => hid d (by simp [hd])) (front ++ e.record) (by omega)
      rwa [List.length_append]

/-- The numbers of the documents are read off the size of the index. -/
theorem ofRegions_ofDocuments {base : PostingsId} {ds : List Document}
    (hroom : base.toNat + ds.length ≤ PostingsId.last.toNat) :
    ofRegions (DocsRegion.ofDocuments base ds).data (DocsRegion.ofDocuments base ds).index =
      .ok ⟨(DocsRegion.ofDocuments base ds).data, (DocsRegion.ofDocuments base ds).index, base,
        .ofNat (base.toNat + ds.length)⟩ := by
  have hlast : PostingsId.last.toNat = 0xFFFFFFFF := rfl
  have hbase : base.toNat < Bytes.limit indexWordSize :=
    Nat.lt_trans base.toNat_lt_size (by decide)
  have hparts : (DocsRegion.ofDocuments base ds).index = Bytes.ofBE indexWordSize base.toNat ++
      (DocsRegion.places 0 ds).flatMap (Bytes.ofBE indexWordSize) := by
    rw [DocsRegion.ofDocuments, List.flatMap_cons]
  have hsplit := Bytes.split?_of_length (Bytes.length_ofBE indexWordSize base.toNat)
    ((DocsRegion.places 0 ds).flatMap (Bytes.ofBE indexWordSize))
  have hlength : ((DocsRegion.places 0 ds).flatMap (Bytes.ofBE indexWordSize)).length =
      indexWordSize * ds.length := by
    rw [Bytes.length_flatMap_of_length (Bytes.length_ofBE indexWordSize),
      DocsRegion.length_places]
  have hwhole : indexWordSize * ds.length % indexWordSize = 0 := Nat.mul_mod_right _ _
  have hcount : indexWordSize * ds.length / indexWordSize = ds.length :=
    Nat.mul_div_cancel_left _ (by decide)
  have hword : ¬ UInt64.size ≤ base.toNat + ds.length := by
    have hsize : UInt64.size = 0x10000000000000000 := rfl
    omega
  have hbounds : bounds (DocsRegion.ofDocuments base ds).index =
      .ok (base, .ofNat (base.toNat + ds.length)) := by
    rw [bounds, hparts, hsplit]
    simp only [hlength, hwhole, ne_eq, not_true_eq_false, if_false, hcount,
      Bytes.toBE_ofBE_of_lt hbase, if_neg hword, if_neg (Nat.not_lt_of_le hroom), UInt32.ofNat_toNat]
  rw [ofRegions, hbounds]
  rfl

/-- The record of every document is found by its number. -/
theorem get_ofDocuments {base limit : PostingsId} {ds : List Document}
    (hlimit : limit.toNat = base.toNat + ds.length) (hid : ∀ d ∈ ds, d.id ≠ some [])
    (hsize : (DocsRegion.ofDocuments base ds).data.length < UInt64.size) {id : PostingsId}
    {d : Document} (hle : base ≤ id) (hd : ds[id.toNat - base.toNat]? = some d) :
    get ⟨(DocsRegion.ofDocuments base ds).data, (DocsRegion.ofDocuments base ds).index, base,
      limit⟩ id = .ok d := by
  have hi : id.toNat - base.toNat < ds.length := (List.getElem?_eq_some_iff.mp hd).1
  have hi' : id.toNat - base.toNat < (DocsRegion.places 0 ds).length := by
    rwa [DocsRegion.length_places]
  have hstart := List.getElem?_eq_getElem hi'
  generalize (DocsRegion.places 0 ds)[id.toNat - base.toNat] = start at hstart
  have hmem : (d, start) ∈ ds.zip (DocsRegion.places 0 ds) := by
    apply List.mem_of_getElem? (i := id.toNat - base.toNat)
    rw [List.getElem?_zip_eq_some]
    exact ⟨hd, hstart⟩
  have hread := readRecord_of_mem_zip hid [] hsize hmem
  have hlt : start < (DocsRegion.ofDocuments base ds).data.length := hread.1
  have hcontains : contains ⟨(DocsRegion.ofDocuments base ds).data,
      (DocsRegion.ofDocuments base ds).index, base, limit⟩ id = true := by
    rw [UInt32.le_iff_toNat_le] at hle
    simp only [contains, Bool.and_eq_true, decide_eq_true_iff, UInt32.le_iff_toNat_le,
      UInt32.lt_iff_toNat_lt, hlimit]
    omega
  have hplace : place ⟨(DocsRegion.ofDocuments base ds).data,
      (DocsRegion.ofDocuments base ds).index, base, limit⟩ id = start := by
    have hword : (base.toNat :: DocsRegion.places 0 ds)[id.toNat - base.toNat + 1]? = some start := by
      rwa [List.getElem?_cons_succ]
    have hoffset : (id.toNat - base.toNat) * indexWordSize + indexWordSize =
        indexWordSize * (id.toNat - base.toNat + 1) := by
      rw [Nat.mul_succ, Nat.mul_comm]
    have hfits : start < Bytes.limit indexWordSize := Nat.lt_trans hlt hsize
    simp only [place, hoffset]
    rw [DocsRegion.ofDocuments, Bytes.slice_flatMap_ofBE hword, Bytes.toBE_ofBE_of_lt hfits]
  rw [get, hcontains, hplace]
  simp only [Bool.not_true, Bool.false_eq_true, if_false]
  rw [if_neg (Nat.not_le_of_lt hlt)]
  exact hread.2

end DocsIndex

/-- No region has more bytes than a word of eight bytes can count. -/
def Data.Addressable (d : Data) : Prop := ∀ bs, some bs ∈ d.regions → bs.length < UInt64.size

instance (d : Data) : Decidable d.Addressable :=
  decidable_of_iff (∀ r ∈ d.regions, (r.getD []).length < UInt64.size) <| by
    constructor
    · exact fun h bs hbs => h (some bs) hbs
    · intro h r hr
      cases r with
      | none => decide
      | some bs => exact h bs hr

/-- Data that were written are found to be sound. -/
theorem Data.validate_ofRegions (numDocs : UInt64) (docsData docsIndex postings keys : Bytes) :
    (ofRegions numDocs docsData docsIndex postings keys).validate =
      .ok ⟨.new numDocs (checksums docsData docsIndex postings keys), docsData, docsIndex, postings,
        keys⟩ := by
  have hmetadata : Metadata.decode
      (Metadata.new numDocs (checksums docsData docsIndex postings keys)).encode =
        .ok (.new numDocs (checksums docsData docsIndex postings keys)) :=
    Metadata.decode_encode (show (Bytes.ofText Metadata.roaringFormat).length < UInt64.size by decide)
  have hverify (bs : Bytes) (name : String) : verify bs name (Checksum.crc32 bs) = .ok () := by
    rw [verify, if_pos rfl]
  simp only [validate, ofRegions, require, hmetadata, bind, Except.bind, pure, Except.pure]
  simp [Metadata.new, checksums, hverify]

end InvertedIndex.Segment
