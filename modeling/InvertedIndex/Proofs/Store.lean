import InvertedIndex.Proofs.ByteMap
import InvertedIndex.Proofs.Utf8
import InvertedIndex.Store

namespace InvertedIndex.Store

open Segment (Data)

inductive Op where
  | write (name : List Char) (d : Data)
  | openSegment (name : List Char)
  | list
  | remove (name : List Char)

/-- The name that an operation is about. -/
def Op.name? : Op → Option (List Char)
  | write name _ | openSegment name | remove name => some name
  | list => none

inductive Answer where
  | done
  | data (d : Data)
  | names (keys : List Bytes)

def perform (s : Store) : Op → Except Error (Answer × Store)
  | .write name d => (s.write name d).map fun t => (.done, t)
  | .openSegment name => (s.openSegment name).map fun d => (.data d, s)
  | .list => .ok (.names s.names, s)
  | .remove name => (s.remove name).map fun t => (.done, t)

/-- An operation that fails leaves the store as it is. -/
def apply (s : Store) (op : Op) : Store :=
  match s.perform op with
  | .ok (_, t) => t
  | .error _ => s

/-- The store after operations on a directory that was empty. -/
def run (ops : List Op) : Store := ops.foldl apply empty

/-- A valid name that the file system takes. -/
def isUsable (name : List Char) : Bool :=
  isValidName name && (nameFault? (Utf8.encode name)).isNone

/-- What is recorded under each name. -/
abbrev Record := List Char → Option Data

def Record.set (m : Record) (name : List Char) (d : Option Data) : Record :=
  fun x => if x = name then d else m x

/-- Writing records under new names, and removing forgets. -/
def Record.apply (m : Record) : Op → Record
  | .write name d => if isUsable name && (m name).isNone then m.set name (some d) else m
  | .remove name => m.set name none
  | .openSegment _ | .list => m

def recorded (ops : List Op) : Record := ops.foldl Record.apply fun _ => none

/-- Where a path leads from a directory, which is given by the names on the way to it. -/
def follow (dir : List (List Char)) (path : List Char) : List (List Char) :=
  (path.splitOn '/').foldl enter (if path.head? = some '/' then [] else dir)
where
  enter (dir : List (List Char)) (part : List Char) : List (List Char) :=
    if part = [] ∨ part = ['.'] then dir
    else if part = ['.', '.'] then dir.dropLast
    else dir ++ [part]

/-- A name may not lead to another directory. -/
theorem isValidName_iff {name : List Char} : isValidName name = true ↔
    name ≠ [] ∧ name ≠ ['.'] ∧ name ≠ ['.', '.'] ∧ '/' ∉ name ∧ '\\' ∉ name := by
  simp [isValidName, and_assoc]

/-- A valid name leads to a file in the directory itself. -/
theorem follow_of_isValidName {name : List Char} (h : isValidName name = true)
    (dir : List (List Char)) : follow dir name = dir ++ [name] := by
  obtain ⟨hempty, hdot, hdots, hslash, -⟩ := isValidName_iff.mp h
  have hsplit : name.splitOn '/' = [name] := by
    apply List.splitOnP_eq_singleton
    intro c hc
    have hne : c ≠ '/' := fun heq => hslash (heq ▸ hc)
    simpa using hne
  have hhead : name.head? ≠ some '/' := by
    intro hhead
    exact hslash (List.mem_of_head? hhead)
  rw [follow, hsplit, if_neg hhead, List.foldl_cons, List.foldl_nil, follow.enter, if_neg, if_neg hdots]
  simp [hempty, hdot]

def fileNames : List Bytes := [metadataFile, docsDataFile, docsIndexFile, postingsFile, keysFile]

theorem get?_put (files : SegmentFiles) (file : Bytes) (region : Option Bytes) (name : Bytes) :
    (put files file region).get? name =
      if name = file then region.or (files.get? name) else files.get? name := by
  cases region with
  | none => simp [put]
  | some bs =>
    rw [put, ByteMap.get?_insert]
    rfl

theorem get?_foldl_put_of_not_mem {file : Bytes} {regions : List (Bytes × Option Bytes)}
    (h : file ∉ regions.map Prod.fst) (files : SegmentFiles) :
    (regions.foldl (fun files p => put files p.1 p.2) files).get? file = files.get? file := by
  induction regions generalizing files with
  | nil => rfl
  | cons p regions ih =>
    rw [List.map_cons, List.mem_cons, not_or] at h
    rw [List.foldl_cons, ih h.2, get?_put, if_neg h.1]

/-- Each region is found in its own file. -/
theorem get?_foldl_put {file : Bytes} {region : Option Bytes} {regions : List (Bytes × Option Bytes)}
    (hnodup : (regions.map Prod.fst).Nodup) (h : (file, region) ∈ regions) {files : SegmentFiles}
    (hfiles : files.get? file = none) :
    (regions.foldl (fun files p => put files p.1 p.2) files).get? file = region := by
  induction regions generalizing files with
  | nil => cases h
  | cons p regions ih =>
    rw [List.map_cons, List.nodup_cons] at hnodup
    rw [List.foldl_cons]
    cases List.mem_cons.mp h with
    | inl hp =>
      subst hp
      rw [get?_foldl_put_of_not_mem hnodup.1, get?_put, if_pos rfl, hfiles, Option.or_none]
    | inr hp =>
      have hne : file ≠ p.1 := by
        intro heq
        exact hnodup.1 (heq ▸ List.mem_map_of_mem (f := Prod.fst) hp)
      apply ih hnodup.2 hp
      rw [get?_put, if_neg hne, hfiles]

theorem map_fst_zip_regions (d : Data) : (fileNames.zip d.regions).map Prod.fst = fileNames := rfl

/-- A region that is there has a file, and one that is not has none. -/
theorem get?_toFiles {d : Data} {file : Bytes} {region : Option Bytes}
    (h : (file, region) ∈ fileNames.zip d.regions) : (toFiles d).get? file = region := by
  have hnodup : ((fileNames.zip d.regions).map Prod.fst).Nodup := by
    rw [map_fst_zip_regions]
    decide
  exact get?_foldl_put hnodup h (rfl : (∅ : SegmentFiles).get? file = none)

theorem get?_toFiles_eq_some {d : Data} {file content : Bytes} :
    (toFiles d).get? file = some content ↔ (file, some content) ∈ fileNames.zip d.regions := by
  constructor
  · intro h
    by_cases hfile : file ∈ (fileNames.zip d.regions).map Prod.fst
    · obtain ⟨⟨f, region⟩, hmem, rfl⟩ := List.mem_map.mp hfile
      rw [get?_toFiles hmem] at h
      rwa [← h]
    · have hnone : (toFiles d).get? file = none := get?_foldl_put_of_not_mem hfile ∅
      rw [hnone] at h
      cases h
  · exact get?_toFiles

/-- What was stored is read back from the files. -/
theorem ofFiles_toFiles (d : Data) : ofFiles (toFiles d) = d := by
  have hread : ∀ p ∈ fileNames.zip d.regions, (toFiles d).get? p.1 = p.2 := fun p => get?_toFiles
  simp only [fileNames, Data.regions, List.zip_cons_cons, List.zip_nil_left, List.forall_mem_cons] at hread
  obtain ⟨hmetadata, hdata, hindex, hpostings, hkeys, -⟩ := hread
  rw [ofFiles, hmetadata, hdata, hindex, hpostings, hkeys]

/-- The directory holds just what is recorded. -/
structure Holds (s : Store) (m : Record) : Prop where
  plain (key : Bytes) : s.plain.contains key = false
  files (name : List Char) : s.segments.get? (Utf8.encode name) = (m name).map toFiles
  isKey (key : Bytes) : s.segments.contains key = true → ∃ name, key = Utf8.encode name
  usable (name : List Char) : m name ≠ none → isUsable name = true

theorem holds_empty : empty.Holds fun _ => none where
  plain key := rfl
  files name := rfl
  isKey key h := by cases h
  usable name h := absurd rfl h

section

variable {s : Store} {m : Record} {name : List Char} {d : Data}

theorem Holds.contains (h : s.Holds m) (name : List Char) :
    s.segments.contains (Utf8.encode name) = (m name).isSome := by
  rw [ByteMap.contains, h.files, Option.isSome_map]

/-- What a change under a name makes of the directory, as of the record. -/
theorem Holds.set (h : s.Holds m) {region : Option Data} {segments : ByteMap SegmentFiles}
    (husable : region ≠ none → isUsable name = true)
    (hsegments : ∀ key, segments.get? key =
      if key = Utf8.encode name then region.map toFiles else s.segments.get? key) :
    Holds { s with segments } (m.set name region) where
  plain := h.plain
  files x := by
    rw [hsegments, Record.set]
    by_cases hx : x = name
    · rw [hx, if_pos rfl, if_pos rfl]
    · have hkey : Utf8.encode x ≠ Utf8.encode name := fun heq => hx (Utf8.encode_injective heq)
      rw [if_neg hkey, if_neg hx, h.files]
  isKey key hkey := by
    rw [ByteMap.contains, hsegments] at hkey
    split at hkey
    · next heq => exact ⟨name, heq⟩
    · exact h.isKey key hkey
  usable x hx := by
    rw [Record.set] at hx
    split at hx
    · next heq => exact heq ▸ husable hx
    · exact h.usable x hx

theorem checkName_eq (hvalid : isValidName name = true) : checkName name = .ok (Utf8.encode name) := by
  rw [checkName, if_pos hvalid]

theorem checkName_eq_error (hinvalid : isValidName name = false) :
    checkName name = .error (.storage (.invalidName name)) := by
  rw [checkName, hinvalid]
  rfl

/-- A name can be used if it is valid and the file system takes it. -/
theorem isUsable_iff :
    isUsable name = true ↔ isValidName name = true ∧ nameFault? (Utf8.encode name) = none := by
  rw [isUsable, Bool.and_eq_true, Option.isNone_iff_eq_none]

/-- A name can be written to as long as nothing is recorded under it. -/
theorem Holds.write_eq (h : s.Holds m) (husable : isUsable name = true) (d : Data) :
    s.write name d =
      if (m name).isSome then .error (.storage .alreadyExists)
      else .ok { s with segments := s.segments.insert (Utf8.encode name) (toFiles d) } := by
  obtain ⟨hvalid, hfault⟩ := isUsable_iff.mp husable
  rw [write, checkName_eq hvalid]
  dsimp only
  rw [hfault]
  dsimp only
  rw [h.plain, h.contains, Bool.or_false]

/-- What is not there cannot be removed. -/
theorem Holds.remove_eq (h : s.Holds m) (husable : isUsable name = true) :
    s.remove name =
      if (m name).isSome then .ok { s with segments := s.segments.erase (Utf8.encode name) }
      else .error (.storage .notFound) := by
  obtain ⟨hvalid, hfault⟩ := isUsable_iff.mp husable
  rw [remove, checkName_eq hvalid]
  dsimp only
  rw [hfault]
  dsimp only
  rw [h.plain, h.contains, if_neg Bool.false_ne_true]

/-- What is recorded under a name is opened as it was written. -/
theorem Holds.openSegment_eq (h : s.Holds m) (hvalid : isValidName name = true) :
    s.openSegment name =
      match m name with
      | some d => .ok d
      | none => .error (.storage .notFound) := by
  rw [openSegment, checkName_eq hvalid]
  dsimp only
  rw [h.files]
  cases m name with
  | none => rfl
  | some d =>
    rw [Option.map_some]
    dsimp only
    rw [ofFiles_toFiles]

/-- The names that are listed are those under which something is recorded. -/
theorem Holds.mem_names_iff (h : s.Holds m) {key : Bytes} :
    key ∈ s.names ↔ ∃ name, key = Utf8.encode name ∧ (m name).isSome = true := by
  rw [names, ByteMap.mem_keys_iff]
  constructor
  · intro hkey
    obtain ⟨name, rfl⟩ := h.isKey key hkey
    exact ⟨name, rfl, by rwa [← h.contains]⟩
  · intro hname
    obtain ⟨name, rfl, hsome⟩ := hname
    rwa [h.contains]

theorem Record.set_eq_self {region : Option Data} (h : m name = region) : m.set name region = m := by
  funext x
  rw [Record.set]
  split
  · next heq => rw [heq, h]
  · rfl

theorem Holds.eq_none (h : s.Holds m) (hname : isUsable name = false) : m name = none := by
  cases hm : m name with
  | none => rfl
  | some d =>
    have husable := h.usable name (by rw [hm]; exact Option.some_ne_none d)
    rw [hname] at husable
    cases husable

theorem write_of_invalid (hname : isValidName name = false) :
    s.write name d = .error (.storage (.invalidName name)) := by
  rw [write, checkName_eq_error hname]

theorem remove_of_invalid (hname : isValidName name = false) :
    s.remove name = .error (.storage (.invalidName name)) := by
  rw [remove, checkName_eq_error hname]

theorem write_of_fault {fault : StorageFault} (hvalid : isValidName name = true)
    (hfault : nameFault? (Utf8.encode name) = some fault) :
    s.write name d = .error (.storage fault) := by
  rw [write, checkName_eq hvalid]
  dsimp only
  rw [hfault]

theorem remove_of_fault {fault : StorageFault} (hvalid : isValidName name = true)
    (hfault : nameFault? (Utf8.encode name) = some fault) :
    s.remove name = .error (.storage fault) := by
  rw [remove, checkName_eq hvalid]
  dsimp only
  rw [hfault]

/-- A name that cannot be used is refused, as it is or by the file system. -/
theorem refuses_of_isUsable_eq_false (hname : isUsable name = false) :
    ∃ fault, (∀ d, s.write name d = .error (.storage fault)) ∧
      s.remove name = .error (.storage fault) := by
  cases hvalid : isValidName name with
  | false => exact ⟨_, fun _ => write_of_invalid hvalid, remove_of_invalid hvalid⟩
  | true =>
    rw [isUsable, hvalid, Bool.true_and, Option.isNone_eq_false_iff, Option.isSome_iff_exists] at hname
    obtain ⟨fault, hfault⟩ := hname
    exact ⟨fault, fun _ => write_of_fault hvalid hfault, remove_of_fault hvalid hfault⟩

theorem apply_of_ok {op : Op} {a : Answer} {t : Store} (h : s.perform op = .ok (a, t)) :
    s.apply op = t := by
  rw [apply, h]

theorem apply_of_error {op : Op} {e : Error} (h : s.perform op = .error e) : s.apply op = s := by
  rw [apply, h]

theorem perform_write {r : Except Error Store} (h : s.write name d = r) :
    s.perform (.write name d) = r.map fun t => (.done, t) := by
  rw [perform, h]

theorem perform_remove {r : Except Error Store} (h : s.remove name = r) :
    s.perform (.remove name) = r.map fun t => (.done, t) := by
  rw [perform, h]

theorem apply_openSegment (s : Store) (name : List Char) : s.apply (.openSegment name) = s := by
  cases h : s.openSegment name with
  | error e => exact apply_of_error (by rw [perform, h]; rfl)
  | ok d => exact apply_of_ok (by rw [perform, h]; rfl)

theorem Holds.apply_write (h : s.Holds m) (husable : isUsable name = true) (hm : m name = none)
    (d : Data) : s.apply (.write name d) =
      { s with segments := s.segments.insert (Utf8.encode name) (toFiles d) } := by
  have hwrite := h.write_eq husable d
  rw [hm] at hwrite
  exact apply_of_ok (perform_write hwrite)

theorem Holds.apply_remove (h : s.Holds m) (husable : isUsable name = true) (hm : m name ≠ none) :
    s.apply (.remove name) = { s with segments := s.segments.erase (Utf8.encode name) } := by
  have hremove := h.remove_eq husable
  rw [if_pos (Option.isSome_iff_ne_none.mpr hm)] at hremove
  exact apply_of_ok (perform_remove hremove)

theorem holds_write (h : s.Holds m) (name : List Char) (d : Data) :
    (s.apply (.write name d)).Holds (m.apply (.write name d)) := by
  rw [Record.apply]
  cases husable : isUsable name with
  | false =>
    obtain ⟨fault, hwrite, -⟩ := refuses_of_isUsable_eq_false husable
    rw [apply_of_error (perform_write (hwrite d))]
    exact h
  | true =>
    cases hm : m name with
    | none =>
      rw [h.apply_write husable hm]
      exact h.set (fun _ => husable) fun key => ByteMap.get?_insert _ _ _ _
    | some old =>
      have hwrite := h.write_eq husable d
      rw [hm] at hwrite
      rw [apply_of_error (perform_write hwrite)]
      exact h

theorem holds_remove (h : s.Holds m) (name : List Char) :
    (s.apply (.remove name)).Holds (m.apply (.remove name)) := by
  rw [Record.apply]
  cases hm : m name with
  | none =>
    -- Nothing is there to be removed: the name is refused, or it is not found.
    have hsame : s.apply (.remove name) = s := by
      cases husable : isUsable name with
      | false =>
        obtain ⟨fault, -, hremove⟩ := refuses_of_isUsable_eq_false husable
        exact apply_of_error (perform_remove hremove)
      | true =>
        have hremove := h.remove_eq husable
        rw [hm] at hremove
        exact apply_of_error (perform_remove hremove)
    rw [hsame, Record.set_eq_self hm]
    exact h
  | some d =>
    have hsome : m name ≠ none := by
      rw [hm]
      exact Option.some_ne_none d
    rw [h.apply_remove (h.usable name hsome) hsome]
    exact h.set (fun hne => absurd rfl hne) fun key => ByteMap.get?_erase _ _ _

theorem holds_apply (h : s.Holds m) (op : Op) : (s.apply op).Holds (m.apply op) := by
  cases op with
  | write name d => exact holds_write h name d
  | openSegment name =>
    rw [apply_openSegment]
    exact h
  | list => exact h
  | remove name => exact holds_remove h name

/-- After every sequence of operations the directory holds what is recorded. -/
theorem holds_run (ops : List Op) : (run ops).Holds (recorded ops) := by
  have hfold : ∀ {s : Store} {m : Record}, s.Holds m →
      (ops.foldl apply s).Holds (ops.foldl Record.apply m) := by
    induction ops with
    | nil => exact id
    | cons op ops ih => exact fun h => ih (holds_apply h op)
  exact hfold holds_empty

/-- What the next operation does to a store and answers is told by a map from names to data. -/
structure BehavesAs (s : Store) (m : Record) : Prop where
  /-- Operations on invalid names are refused and change nothing. -/
  invalid (op : Op) (name : List Char) : op.name? = some name → isValidName name = false →
    s.perform op = .error (.storage (.invalidName name)) ∧ s.apply op = s
  /-- So are changes under names that the file system does not take. Nothing is recorded there. -/
  untaken (name : List Char) (fault : StorageFault) :
    isValidName name = true → nameFault? (Utf8.encode name) = some fault →
      m name = none ∧ s.remove name = .error (.storage fault) ∧ s.apply (.remove name) = s ∧
        ∀ d, s.write name d = .error (.storage fault) ∧ s.apply (.write name d) = s
  /-- Under a new name there is a file for every region that is there, and no other. -/
  write (name : List Char) (d : Data) : isUsable name = true → m name = none →
    s.write name d = .ok (s.apply (.write name d)) ∧
      ∃ files, (s.apply (.write name d)).segments.get? (Utf8.encode name) = some files ∧
        ∀ file content,
          files.get? file = some content ↔ (file, some content) ∈ fileNames.zip d.regions
  /-- What is stored is not written over. -/
  rewrite (name : List Char) (d : Data) : m name ≠ none →
    s.write name d = .error (.storage .alreadyExists) ∧ s.apply (.write name d) = s
  openSegment (name : List Char) : isValidName name = true →
    (s.openSegment name = match m name with
      | some d => .ok d
      | none => .error (.storage .notFound)) ∧
    s.apply (.openSegment name) = s
  remove (name : List Char) : m name ≠ none → s.remove name = .ok (s.apply (.remove name)) ∧
    (s.apply (.remove name)).segments.get? (Utf8.encode name) = none
  removeMissing (name : List Char) : isUsable name = true → m name = none →
    s.remove name = .error (.storage .notFound) ∧ s.apply (.remove name) = s
  list : s.perform .list = .ok (.names s.names, s) ∧ Bytes.Ascending s.names ∧
    ∀ key, key ∈ s.names ↔ ∃ name, key = Utf8.encode name ∧ m name ≠ none
  /-- Operations on other names, and on none, leave the files of a name alone. -/
  other (op : Op) (name : List Char) : op.name? ≠ some name →
    (s.apply op).segments.get? (Utf8.encode name) = s.segments.get? (Utf8.encode name)

theorem perform_of_invalid {op : Op} (hop : op.name? = some name) (hname : isValidName name = false) :
    s.perform op = .error (.storage (.invalidName name)) := by
  cases op with
  | list => cases hop
  | write x d =>
    obtain rfl := Option.some.inj hop
    exact perform_write (write_of_invalid hname)
  | openSegment x =>
    obtain rfl := Option.some.inj hop
    rw [perform, Store.openSegment, checkName_eq_error hname]
    rfl
  | remove x =>
    obtain rfl := Option.some.inj hop
    exact perform_remove (remove_of_invalid hname)

/-- An operation on one name leaves the other names alone. -/
theorem Record.apply_of_ne {op : Op} (hop : op.name? ≠ some name) : m.apply op name = m name := by
  have hset (x : List Char) (region : Option Data) (hx : some x ≠ some name) :
      m.set x region name = m name := by
    have hne : name ≠ x := fun heq => hx (congrArg some heq.symm)
    rw [Record.set, if_neg hne]
  cases op with
  | write x d =>
    rw [Record.apply]
    split
    · exact hset x (some d) hop
    · rfl
  | remove x => exact hset x none hop
  | openSegment x => rfl
  | list => rfl

/-- A directory that holds what is recorded does what the operation would do to the record. -/
theorem Holds.behavesAs (h : s.Holds m) : s.BehavesAs m where
  invalid op name hop hname :=
    ⟨perform_of_invalid hop hname, apply_of_error (perform_of_invalid hop hname)⟩
  untaken name fault hvalid hfault := by
    have hname : isUsable name = false := by
      rw [isUsable, hfault]
      exact Bool.and_false _
    have hremove : s.remove name = .error (.storage fault) := remove_of_fault hvalid hfault
    have hwrite (d : Data) : s.write name d = .error (.storage fault) :=
      write_of_fault hvalid hfault
    exact ⟨h.eq_none hname, hremove, apply_of_error (perform_remove hremove),
      fun d => ⟨hwrite d, apply_of_error (perform_write (hwrite d))⟩⟩
  write name d husable hm := by
    have hwrite := h.write_eq husable d
    rw [hm] at hwrite
    rw [h.apply_write husable hm]
    refine ⟨hwrite, toFiles d, ?_, fun file content => get?_toFiles_eq_some⟩
    rw [ByteMap.get?_insert, if_pos rfl]
  rewrite name d hm := by
    have hwrite := h.write_eq (h.usable name hm) d
    rw [if_pos (Option.isSome_iff_ne_none.mpr hm)] at hwrite
    exact ⟨hwrite, apply_of_error (perform_write hwrite)⟩
  openSegment name hvalid := ⟨h.openSegment_eq hvalid, apply_openSegment s name⟩
  remove name hm := by
    have hremove := h.remove_eq (h.usable name hm)
    rw [if_pos (Option.isSome_iff_ne_none.mpr hm)] at hremove
    rw [h.apply_remove (h.usable name hm) hm]
    refine ⟨hremove, ?_⟩
    rw [ByteMap.get?_erase, if_pos rfl]
  removeMissing name husable hm := by
    have hremove := h.remove_eq husable
    rw [hm] at hremove
    exact ⟨hremove, apply_of_error (perform_remove hremove)⟩
  list := by
    refine ⟨rfl, s.segments.ascending, fun key => ?_⟩
    simp only [h.mem_names_iff, Option.isSome_iff_ne_none]
  other op name hop := by
    rw [(holds_apply h op).files, h.files, Record.apply_of_ne hop]

end

theorem run_append (ops : List Op) (op : Op) : run (ops ++ [op]) = (run ops).apply op := by
  rw [run, List.foldl_append]
  rfl

theorem recorded_append (ops : List Op) (op : Op) :
    recorded (ops ++ [op]) = (recorded ops).apply op := by
  rw [recorded, List.foldl_append]
  rfl

/-- What is read under a name depends on its files only. -/
theorem openSegment_congr {s t : Store} {name : List Char}
    (h : t.segments.get? (Utf8.encode name) = s.segments.get? (Utf8.encode name)) :
    t.openSegment name = s.openSegment name := by
  cases hvalid : isValidName name with
  | false => rw [openSegment, openSegment, checkName_eq_error hvalid]
  | true =>
    rw [openSegment, openSegment, checkName_eq hvalid]
    dsimp only
    rw [h]

/-- After any operations on a directory that was empty, the store is the map that the operations make
of an empty map. What was written is read, what was removed is gone and can be written again, and
nothing else changes under a name. -/
theorem run_behaves_as_map (ops : List Op) :
    (run ops).BehavesAs (recorded ops) ∧
    (∀ name d, isUsable name = true → recorded ops name = none →
      (run (ops ++ [.write name d])).openSegment name = .ok d) ∧
    (∀ name, isUsable name = true →
      (run (ops ++ [.remove name])).openSegment name = .error (.storage .notFound) ∧
      ∀ d, (run (ops ++ [.remove name])).write name d =
        .ok (run (ops ++ [.remove name] ++ [.write name d]))) ∧
    (∀ op name, op.name? ≠ some name →
      (run (ops ++ [op])).openSegment name = (run ops).openSegment name ∧
      (Utf8.encode name ∈ (run (ops ++ [op])).names ↔ Utf8.encode name ∈ (run ops).names)) ∧
    ∀ name, (isValidName name = true ↔
        name ≠ [] ∧ name ≠ ['.'] ∧ name ≠ ['.', '.'] ∧ '/' ∉ name ∧ '\\' ∉ name) ∧
      (StorageFault.invalidName name).kind = "InvalidInput" ∧
      (isValidName name = true → ∀ dir, follow dir name = dir ++ [name]) := by
  have hbehaves (ops : List Op) := (holds_run ops).behavesAs
  refine ⟨hbehaves ops, ?_, ?_, ?_, ?_⟩
  · intro name d husable hnew
    have hopen := (holds_run (ops ++ [.write name d])).openSegment_eq (isUsable_iff.mp husable).1
    rwa [recorded_append, Record.apply, husable, hnew, if_pos (by rfl), Record.set, if_pos rfl] at hopen
  · intro name husable
    have hgone : recorded (ops ++ [.remove name]) name = none := by
      rw [recorded_append, Record.apply, Record.set, if_pos rfl]
    constructor
    · have hopen := (holds_run (ops ++ [.remove name])).openSegment_eq (isUsable_iff.mp husable).1
      rwa [hgone] at hopen
    · intro d
      rw [run_append (ops ++ [Op.remove name])]
      exact ((hbehaves _).write name d husable hgone).1
  · intro op name hop
    have hsame := (hbehaves ops).other op name hop
    rw [← run_append] at hsame
    refine ⟨openSegment_congr hsame, ?_⟩
    rw [names, names, ByteMap.mem_keys_iff, ByteMap.mem_keys_iff, ByteMap.contains, ByteMap.contains, hsame]
  · intro name
    exact ⟨isValidName_iff, rfl, fun hvalid => follow_of_isValidName hvalid⟩

example : (run [.write ['b'] .empty, .write ['a'] ⟨some [1], some [], none, none, none⟩,
    .remove ['b'], .write ['a'] .empty]).names = [[97]] := by decide

end InvertedIndex.Store
