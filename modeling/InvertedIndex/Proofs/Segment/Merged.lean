import InvertedIndex.Segment.Build

namespace InvertedIndex.Segment

section

variable {α β : Type} {key : α → Option Bytes} {xs es : List α} {a e : α}

/-- Appends an element, unless one with its key is there. -/
def join (key : α → Option Bytes) (xs : List α) (a : α) : List α :=
  if (key a).isSome && xs.any (fun x => key x = key a) then xs else xs ++ [a]

/-- The elements can be told apart by their keys, as far as they have any. -/
def Distinct (key : α → Option Bytes) (xs : List α) : Prop :=
  xs.Pairwise fun a b => key a = key b → key a = none

theorem mem_of_mem_join (h : e ∈ join key xs a) : e ∈ xs ∨ e = a := by
  unfold join at h
  split at h
  · exact .inl h
  · rwa [List.mem_append, List.mem_singleton] at h

theorem mem_of_mem_foldl_join (h : e ∈ es.foldl (join key) xs) : e ∈ xs ∨ e ∈ es := by
  induction es generalizing xs with
  | nil => exact .inl h
  | cons a es ih =>
    rw [List.mem_cons]
    cases ih h with
    | inl h => exact (mem_of_mem_join h).imp_right .inl
    | inr h => exact .inr (.inr h)

theorem map_join {f : β → α} (ys : List β) (b : β) :
    (join (key ∘ f) ys b).map f = join key (ys.map f) (f b) := by
  unfold join
  rw [List.any_map]
  split
  · next h => exact (if_pos h).symm
  · next h =>
    rw [List.map_append]
    exact (if_neg h).symm

theorem map_foldl_join {f : β → α} (ys bs : List β) :
    (bs.foldl (join (key ∘ f)) ys).map f = (bs.map f).foldl (join key) (ys.map f) := by
  induction bs generalizing ys with
  | nil => rfl
  | cons b bs ih => rw [List.foldl_cons, ih, map_join, List.map_cons, List.foldl_cons]

/-- A test of keys lets through all elements with a key, or none. -/
theorem filter_join {P : Option Bytes → Bool} :
    (join key xs a).filter (P ∘ key) =
      if P (key a) then join key (xs.filter (P ∘ key)) a else xs.filter (P ∘ key) := by
  have hany (h : P (key a) = true) :
      (xs.filter (P ∘ key)).any (fun x => key x = key a) = xs.any fun x => key x = key a := by
    rw [List.any_filter]
    congr 1
    funext x
    by_cases hx : key x = key a
    · simp [hx, h]
    · simp [hx]
  unfold join
  split
  · next hold =>
    split
    · next hP => rw [hany hP, if_pos hold]
    · rfl
  · next hnew =>
    rw [List.filter_append]
    split
    · next hP =>
      have hlast : [a].filter (P ∘ key) = [a] := List.filter_cons_of_pos hP
      rw [hany hP, if_neg hnew, hlast]
    · next hP =>
      have hlast : [a].filter (P ∘ key) = [] := List.filter_cons_of_neg hP
      rw [hlast, List.append_nil]

/-- Filtering by keys can be done before joining. -/
theorem filter_foldl_join {P : Option Bytes → Bool} :
    (es.foldl (join key) xs).filter (P ∘ key) =
      (es.filter (P ∘ key)).foldl (join key) (xs.filter (P ∘ key)) := by
  induction es generalizing xs with
  | nil => rfl
  | cons a es ih =>
    rw [List.foldl_cons, ih, filter_join, List.filter_cons, Function.comp_apply]
    split <;> rfl

/-- Elements that can be told apart are all appended. -/
theorem foldl_join_of_distinct (h : Distinct key (xs ++ es)) : es.foldl (join key) xs = xs ++ es := by
  induction es generalizing xs with
  | nil => rw [List.foldl_nil, List.append_nil]
  | cons a es ih =>
    have hjoin : join key xs a = xs ++ [a] := by
      rw [join, if_neg]
      rw [Bool.and_eq_true, List.any_eq_true]
      intro hold
      obtain ⟨hkey, x, hx, hxa⟩ := hold
      have hxa := of_decide_eq_true hxa
      have hnone := (List.pairwise_append.mp h).2.2 x hx a (by simp) hxa
      rw [← hxa, hnone] at hkey
      cases hkey
    have hrest : Distinct key (xs ++ [a] ++ es) := by
      rw [List.append_assoc]
      exact h
    rw [List.foldl_cons, hjoin, ih hrest, List.append_assoc]
    rfl

end

namespace Merged

variable {m : Merged} {d : Document}

theorem mem_live : d ∈ m.live ↔ ∃ slot : Nat, m.slots[slot]? = some (some d) := by
  rw [live, List.mem_filterMap]
  constructor
  · intro h
    obtain ⟨o, ho, hd⟩ := h
    obtain rfl : o = some d := hd
    obtain ⟨slot, hslot⟩ := List.mem_iff_getElem?.mp ho
    exact ⟨slot, by rwa [Array.getElem?_toList] at hslot⟩
  · intro h
    obtain ⟨slot, hslot⟩ := h
    rw [← Array.getElem?_toList] at hslot
    exact ⟨some d, List.mem_of_getElem? hslot, rfl⟩

/-- An identifier has a place if a document that is left has it. -/
theorem isSome_get?_places {id : Bytes} :
    (m.places.get? id).isSome = m.live.any fun d => d.id = some id := by
  rw [Bool.eq_iff_iff, Option.isSome_iff_exists, List.any_eq_true]
  simp only [m.inStep, mem_live, decide_eq_true_iff]
  constructor
  · intro h
    obtain ⟨slot, d, hd, hid⟩ := h
    exact ⟨d, ⟨slot, hd⟩, hid⟩
  · intro h
    obtain ⟨d, ⟨slot, hd⟩, hid⟩ := h
    exact ⟨slot, d, hd, hid⟩

theorem live_empty : empty.live = [] := rfl

theorem live_push (m : Merged) (d : Document) (places : ByteMap Nat) (h) :
    live ⟨m.slots.push (some d), places, h⟩ = m.live ++ [d] := by
  simp [live, List.filterMap_append]

theorem live_add (m : Merged) (d : Document) : (m.add d).live = join Document.id m.live d := by
  unfold add
  split
  · next hd =>
    rw [live_push, join, hd]
    rfl
  · next id hd =>
    have hjoin : join Document.id m.live d =
        if (m.places.get? id).isSome then m.live else m.live ++ [d] := by
      rw [isSome_get?_places, join, hd, Option.isSome_some, Bool.true_and]
    rw [hjoin]
    split
    · next hplace => rw [hplace]; rfl
    · next hplace => rw [live_push, hplace]; rfl

theorem live_foldl_add (m : Merged) (ds : List Document) :
    (ds.foldl add m).live = ds.foldl (join Document.id) m.live := by
  induction ds generalizing m with
  | nil => rfl
  | cons d ds ih => rw [List.foldl_cons, ih, live_add, List.foldl_cons]

/-- The hole is where the only document with the identifier was. -/
theorem live_remove (m : Merged) (id : Bytes) :
    (m.remove id).live = m.live.filter fun d => d.id != some id := by
  unfold remove
  split
  · next place hplace =>
    obtain ⟨d, hd, hid⟩ := (m.inStep id place).mp hplace
    have hslots : (m.slots.setIfInBounds place none).toList =
        m.slots.toList.map (·.filter fun d => d.id != some id) := by
      apply List.ext_getElem?
      intro slot
      rw [Array.getElem?_toList, Array.getElem?_setIfInBounds, List.getElem?_map,
        Array.getElem?_toList]
      by_cases hslot : place = slot
      · subst hslot
        have hlt := (Array.getElem?_eq_some_iff.mp hd).1
        rw [if_pos rfl, if_pos hlt, hd]
        simp [Option.filter, hid]
      · rw [if_neg hslot]
        cases ho : m.slots[slot]? with
        | none => rfl
        | some o =>
          cases o with
          | none => rfl
          | some e =>
            have hne : e.id ≠ some id := by
              intro he
              have hsame := (m.inStep id slot).mpr ⟨e, ho, he⟩
              rw [hplace, Option.some.injEq] at hsame
              exact hslot hsame
            simp [Option.filter, hne]
    rw [live, hslots, live, List.filterMap_map, List.filter_filterMap]
    rfl
  · next hplace =>
    have hnone : m.live.any (fun d => d.id = some id) = false := by
      rw [← isSome_get?_places, hplace]
      rfl
    symm
    apply List.filter_eq_self.mpr
    intro d hd
    have hne := List.any_eq_false.mp hnone d hd
    simpa using hne

/-- The identifier, if there is one, is not among these. -/
def isOutside (ids : List Bytes) (id : Option Bytes) : Bool := id.all fun id => !ids.contains id

theorem live_foldl_remove (m : Merged) (ids : List Bytes) :
    (ids.foldl remove m).live = m.live.filter (isOutside ids ∘ Document.id) := by
  induction ids generalizing m with
  | nil =>
    symm
    apply List.filter_eq_self.mpr
    intro d _
    cases hid : d.id <;> simp [isOutside, hid]
  | cons i ids ih =>
    rw [List.foldl_cons, ih, live_remove, List.filter_filter]
    congr 1
    funext d
    cases hid : d.id with
    | none => simp [isOutside, hid]
    | some id =>
      by_cases h : id = i
      · simp [isOutside, hid, h]
      · simp [isOutside, hid, h]

/-- The index leads from an identifier to one slot. -/
theorem distinct_live (m : Merged) : Distinct Document.id m.live := by
  rw [Distinct, live, List.pairwise_filterMap, List.pairwise_iff_getElem]
  intro i j hi hj hij d hd e he hid
  cases hkey : d.id with
  | none => rfl
  | some id =>
    have hplace (slot : Nat) (hslot : slot < m.slots.toList.length) (x : Document)
        (hx : m.slots.toList[slot] = some x) (hxid : x.id = some id) :
        m.places.get? id = some slot := by
      apply (m.inStep id slot).mpr
      refine ⟨x, ?_, hxid⟩
      rw [← Array.getElem?_toList, List.getElem?_eq_getElem hslot, hx]
    have hleft := hplace i hi d hd hkey
    have hright := hplace j hj e he (hid ▸ hkey)
    rw [hleft, Option.some.injEq] at hright
    omega

end Merged

namespace Build

open Merged (isOutside)

/-- Merging sources into documents that can be told apart. -/
def mergeInto (ds : List Document) : List Source → Except Error (List Document)
  | [] => .ok ds
  | source :: sources =>
    match source.documents with
    | .error e => .error e
    | .ok es =>
      mergeInto ((es.foldl (join Document.id) ds).filter (isOutside source.tombstones ∘ Document.id))
        sources

theorem map_live_mergeFrom (m : Merged) (sources : List Source) :
    (mergeFrom m sources).map Merged.live = mergeInto m.live sources := by
  induction sources generalizing m with
  | nil => rfl
  | cons source sources ih =>
    rw [mergeFrom, mergeInto, mergeSource]
    cases source.documents with
    | error e => rfl
    | ok es =>
      simp only [Except.map]
      rw [← Merged.live_foldl_add, ← Merged.live_foldl_remove]
      exact ih _

/-- A merge can be followed on the list of the documents that are left. -/
theorem merge_eq (sources : List Source) : merge sources = mergeInto [] sources := by
  rw [merge, map_live_mergeFrom, Merged.live_empty]

theorem mergeInto_append (ds : List Document) (sources more : List Source) :
    mergeInto ds (sources ++ more) =
      match mergeInto ds sources with
      | .error e => .error e
      | .ok es => mergeInto es more := by
  induction sources generalizing ds with
  | nil => rfl
  | cons source sources ih =>
    rw [List.cons_append, mergeInto, mergeInto]
    cases source.documents with
    | error e => rfl
    | ok es => exact ih _

/-- What a merge makes can be told apart. -/
theorem distinct_of_merge {sources : List Source} {ds : List Document}
    (h : merge sources = .ok ds) : Distinct Document.id ds := by
  unfold merge at h
  cases hm : mergeFrom .empty sources with
  | error e =>
    rw [hm] at h
    cases h
  | ok m =>
    rw [hm] at h
    cases h
    exact m.distinct_live

end Build

end InvertedIndex.Segment
