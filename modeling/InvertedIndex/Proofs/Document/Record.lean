import InvertedIndex.Proofs.Varint

namespace InvertedIndex

namespace Document

theorem readVarint_encode {n : Nat} (hn : n < UInt64.size) (rest : Bytes) :
    readVarint (Varint.encode n ++ rest) = .ok (n, rest) := by
  rw [readVarint, Varint.decode_encode hn]
  rfl

theorem readBytes_recordBytes {bs : Bytes} (h : bs.length < UInt64.size) (rest : Bytes) :
    readBytes (recordBytes bs ++ rest) = .ok (bs, rest) := by
  rw [readBytes, recordBytes, List.append_assoc, readVarint_encode h]
  dsimp only
  rw [Bytes.split?_append]

theorem length_le_recordBytes (bs : Bytes) : bs.length < (recordBytes bs).length := by
  have hpos := Varint.length_encode_pos bs.length
  rw [recordBytes, List.length_append]
  omega

theorem readField_fieldRecord {f : Field} (hname : f.name.length < UInt64.size)
    (hvalue : f.value.length < UInt64.size) (rest : Bytes) :
    readField (fieldRecord f ++ rest) = .ok (f, rest) := by
  rw [readField, fieldRecord, List.append_assoc, readBytes_recordBytes hname]
  dsimp only
  rw [readBytes_recordBytes hvalue]
  rfl

theorem readFields_flatMap {fs : List Field}
    (h : ∀ f ∈ fs, f.name.length < UInt64.size ∧ f.value.length < UInt64.size) (rest : Bytes) :
    readFields fs.length (fs.flatMap fieldRecord ++ rest) = .ok (fs, rest) := by
  induction fs with
  | nil => rfl
  | cons f fs ih =>
    obtain ⟨hf, hfs⟩ := List.forall_mem_cons.mp h
    rw [List.length_cons, readFields, List.flatMap_cons, List.append_assoc,
      readField_fieldRecord hf.1 hf.2]
    dsimp only
    rw [ih hfs]
    rfl

theorem length_le_flatMap_fieldRecord (fs : List Field) :
    fs.length ≤ (fs.flatMap fieldRecord).length := by
  induction fs with
  | nil => exact Nat.le_refl 0
  | cons f fs ih =>
    have hname := length_le_recordBytes f.name
    rw [List.flatMap_cons, List.length_append, List.length_cons, fieldRecord, List.length_append]
    omega

/-- Identifier and number of fields take a byte each at least. -/
theorem two_le_length_record (d : Document) : 2 ≤ d.record.length := by
  have hid := length_le_recordBytes (d.id.getD [])
  have hcount := Varint.length_encode_pos d.fields.length
  rw [record, List.length_append, List.length_append]
  omega

/-- A word of eight bytes can tell how long the parts of a document are. -/
structure Addressable (d : Document) : Prop where
  id : (d.id.getD []).length < UInt64.size
  count : d.fields.length < UInt64.size
  fields : ∀ f ∈ d.fields, f.name.length < UInt64.size ∧ f.value.length < UInt64.size

/-- What is in a record that a word can count is itself short enough to be counted. -/
theorem addressable_of_record {d : Document} (h : d.record.length < UInt64.size) :
    d.Addressable := by
  have hid := length_le_recordBytes (d.id.getD [])
  have hcount := length_le_flatMap_fieldRecord d.fields
  rw [record, List.length_append, List.length_append] at h
  refine ⟨by omega, by omega, fun f hf => ?_⟩
  have hpart : (fieldRecord f).length ≤ (d.fields.flatMap fieldRecord).length :=
    (List.sublist_flatten_of_mem (List.mem_map_of_mem hf)).length_le
  have hname := length_le_recordBytes f.name
  have hvalue := length_le_recordBytes f.value
  rw [fieldRecord, List.length_append] at hpart
  exact ⟨by omega, by omega⟩

/-- What a record tells of a document: an empty identifier is none. -/
def stored (d : Document) : Document := ⟨d.id.filter (· ≠ []), d.fields⟩

theorem stored_eq {d : Document} (hid : d.id ≠ some []) : d.stored = d := by
  obtain ⟨id, fields⟩ := d
  cases id with
  | none => rfl
  | some id =>
    cases id with
    | nil => exact absurd rfl hid
    | cons b id => rfl

/-- A record is read back, whatever follows it. An empty identifier comes back as a missing one. -/
theorem readRecord_record {d : Document} (h : d.Addressable) (rest : Bytes) :
    readRecord (d.record ++ rest) = .ok (d.stored, rest) := by
  rw [readRecord, record, List.append_assoc, List.append_assoc, readBytes_recordBytes h.id]
  dsimp only
  rw [readVarint_encode h.count]
  dsimp only
  rw [readFields_flatMap h.fields]
  obtain ⟨id, fields⟩ := d
  rcases id with _ | _ | _ <;> rfl

end Document

end InvertedIndex
