import InvertedIndex.Bytes.Sorted

namespace InvertedIndex

/-- Finite maps from byte strings, with their entries in ascending order of the keys. -/
structure ByteMap (α : Type) where
  entries : List (Bytes × α)
  ascending : Bytes.Ascending (entries.map Prod.fst)

namespace ByteMap

variable {α β : Type}

def empty : ByteMap α := ⟨[], List.Pairwise.nil⟩

instance : EmptyCollection (ByteMap α) := ⟨empty⟩

instance : Inhabited (ByteMap α) := ⟨empty⟩

def keys (m : ByteMap α) : List Bytes := m.entries.map Prod.fst

def values (m : ByteMap α) : List α := m.entries.map Prod.snd

def size (m : ByteMap α) : Nat := m.entries.length

def get? (m : ByteMap α) (k : Bytes) : Option α := m.entries.lookup k

def contains (m : ByteMap α) (k : Bytes) : Bool := (m.get? k).isSome

/-- Puts `f` of the value at `k`, if there is one, in its place. -/
def alterEntries (k : Bytes) (f : Option α → α) : List (Bytes × α) → List (Bytes × α)
  | [] => [(k, f none)]
  | (j, a) :: rest =>
    if k < j then (k, f none) :: (j, a) :: rest
    else if k = j then (j, f (some a)) :: rest
    else (j, a) :: alterEntries k f rest

theorem alterEntries_cons (k j : Bytes) (f : Option α → α) (a : α) (rest : List (Bytes × α)) :
    alterEntries k f ((j, a) :: rest) =
      if k < j then (k, f none) :: (j, a) :: rest
      else if k = j then (j, f (some a)) :: rest
      else (j, a) :: alterEntries k f rest := rfl

/-- The keys change as a set does that takes in a member. -/
theorem keys_alterEntries (k : Bytes) (f : Option α → α) (es : List (Bytes × α)) :
    (alterEntries k f es).map Prod.fst = Bytes.insert k (es.map Prod.fst) := by
  induction es with
  | nil => rfl
  | cons e rest ih =>
    obtain ⟨j, a⟩ := e
    rw [alterEntries_cons, List.map_cons, Bytes.insert_cons]
    split
    · rfl
    · split
      · rfl
      · rw [List.map_cons, ih]

/-- Gives a key a new value, made from the one that it had. -/
def alter (m : ByteMap α) (k : Bytes) (f : Option α → α) : ByteMap α where
  entries := alterEntries k f m.entries
  ascending := by
    rw [keys_alterEntries]
    exact Bytes.ascending_insert m.ascending

def insert (m : ByteMap α) (k : Bytes) (a : α) : ByteMap α := m.alter k fun _ => a

def erase (m : ByteMap α) (k : Bytes) : ByteMap α where
  entries := m.entries.filter (·.1 != k)
  ascending := m.ascending.sublist (List.filter_sublist.map Prod.fst)

def ofList (es : List (Bytes × α)) : ByteMap α := es.foldl (fun m (k, a) => m.insert k a) empty

/-- Altering the entry of a key leaves the other entries as they are. -/
theorem lookup_alterEntries (k j : Bytes) (f : Option α → α) (es : List (Bytes × α))
    (h : Bytes.Ascending (es.map Prod.fst)) :
    (alterEntries k f es).lookup j = if j = k then some (f (es.lookup k)) else es.lookup j := by
  induction es with
  | nil =>
    rw [alterEntries, List.lookup_cons]
    grind
  | cons e rest ih =>
    obtain ⟨i, a⟩ := e
    obtain ⟨hi, hrest⟩ := List.pairwise_cons.mp h
    have ih := ih hrest
    rw [alterEntries_cons]
    split
    · next hki =>
      have hne : k ≠ i := by
        rintro rfl
        exact List.lt_irrefl k hki
      have hnone : rest.lookup k = none := by
        rw [List.lookup_eq_none_iff]
        intro p hp
        have hip := hi p.1 (List.mem_map_of_mem hp)
        have hkp : k ≠ p.1 := by
          rintro rfl
          exact List.lt_irrefl _ (List.lt_trans hki hip)
        simpa using hkp
      simp only [List.lookup_cons]
      grind
    · split
      · next hki =>
        subst hki
        simp only [List.lookup_cons]
        grind
      · next hki =>
        simp only [List.lookup_cons, ih]
        grind

theorem get?_alter (m : ByteMap α) (k j : Bytes) (f : Option α → α) :
    (m.alter k f).get? j = if j = k then some (f (m.get? k)) else m.get? j :=
  lookup_alterEntries k j f m.entries m.ascending

theorem get?_insert (m : ByteMap α) (k j : Bytes) (a : α) :
    (m.insert k a).get? j = if j = k then some a else m.get? j :=
  get?_alter m k j fun _ => a

theorem lookup_filter_ne (k j : Bytes) (es : List (Bytes × α)) :
    (es.filter (·.1 != k)).lookup j = if j = k then none else es.lookup j := by
  induction es with
  | nil => simp
  | cons e rest ih =>
    obtain ⟨i, a⟩ := e
    rw [List.filter_cons]
    split
    · simp only [List.lookup_cons, ih]
      grind
    · simp only [List.lookup_cons]
      grind

theorem get?_erase (m : ByteMap α) (k j : Bytes) :
    (m.erase k).get? j = if j = k then none else m.get? j :=
  lookup_filter_ne k j m.entries

@[simp] theorem get?_empty (k : Bytes) : (empty : ByteMap α).get? k = none := rfl

end ByteMap

end InvertedIndex
