import InvertedIndex.Proofs.Segment.Entries

namespace InvertedIndex

namespace Varint

/-- The bytes of a number are inside, and what follows them does not matter. -/
theorem readFrom_append {i n used : Nat} {bs : Bytes} (h : readFrom i bs = ⟨.ok n, used⟩) :
    i < used ∧ used ≤ i + bs.length ∧ ∀ more, readFrom i (bs ++ more) = ⟨.ok n, used⟩ := by
  induction bs generalizing i n with
  | nil => cases h
  | cons b bs ih =>
    rw [readFrom] at h
    simp only [List.cons_append, readFrom, List.length_cons]
    split at h
    · cases h
    · next hfits =>
      split at h
      · next hlast =>
        cases h
        refine ⟨by omega, by omega, fun more => ?_⟩
        rw [if_neg hfits, if_pos hlast]
      · next hlast =>
        cases hrest : readFrom (i + 1) bs with
        | mk value after =>
          rw [hrest] at h
          obtain ⟨hvalue, rfl⟩ := Reading.mk.inj h
          obtain ⟨high, rfl, rfl⟩ := Results.map_eq_ok hvalue
          obtain ⟨hlt, hle, hmore⟩ := ih hrest
          refine ⟨by omega, by omega, fun more => ?_⟩
          rw [if_neg hfits, if_neg hlast, hmore more]
          rfl

/-- Reads a number at a place, of which `i` bytes stand before. -/
def lookFrom (data : Bytes) (i place : Nat) : Except Fault (Nat × Nat) :=
  match h : data[place]? with
  | none => .error .truncated
  | some b =>
    if i = 9 ∧ 1 < b.toNat then .error .overflow
    else if b.toNat < 128 then .ok (b.toNat, place + 1)
    else (lookFrom data (i + 1) (place + 1)).map fun (n, stop) => (b.toNat % 128 + 128 * n, stop)
termination_by data.length - place
decreasing_by
  have hplace := (List.getElem?_eq_some_iff.mp h).1
  omega

/-- A number is read at a place as it is read from the front of what is left. -/
theorem lookFrom_eq (data : Bytes) (i place : Nat) :
    lookFrom data i place =
      match readFrom i (data.drop place) with
      | ⟨.ok n, used⟩ => .ok (n, place + (used - i))
      | ⟨.error fault, _⟩ => .error fault := by
  fun_induction lookFrom data i place with
  | case1 i place hnone =>
    rw [List.drop_eq_nil_iff.mpr (List.getElem?_eq_none_iff.mp hnone)]
    rfl
  | case2 i place b hb hover =>
    rw [List.drop_eq_getElem?_toList_append, hb]
    simp [readFrom, hover]
  | case3 i place b hb hfits hlast =>
    rw [List.drop_eq_getElem?_toList_append, hb]
    simp [readFrom, hfits, hlast]
  | case4 i place b hb hfits hlast ih =>
    rw [ih, List.drop_eq_getElem?_toList_append (i := place), hb]
    simp only [Option.toList_some, List.singleton_append, readFrom, if_neg hfits, if_neg hlast]
    cases hrest : readFrom (i + 1) (data.drop (place + 1)) with
    | mk value used =>
      cases value with
      | error fault => rfl
      | ok n =>
        have hlt := (readFrom_append hrest).1
        have hstop : place + 1 + (used - (i + 1)) = place + (used - i) := by omega
        simp [Except.map, hstop]

end Varint

namespace Document

open Bytes (Extends)
open Segment.PostingsRegion (slice? slice?_of_le)

/-- Reads from a place of the data on, and answers where it has stopped. There is no answer at all if it
would have to look outside of the data. -/
abbrev PlaceReader (α : Type) := Bytes → Nat → Option (Except Error (α × Nat))

namespace PlaceReader

variable {α β : Type}

def done (a : α) : PlaceReader α := fun _ place => some (.ok (a, place))

def andThen (first : PlaceReader β) (next : β → PlaceReader α) : PlaceReader α := fun data place =>
  match first data place with
  | none => none
  | some (.error e) => some (.error e)
  | some (.ok (b, stop)) => next b data stop

def number : PlaceReader Nat := fun data place =>
  some ((Varint.lookFrom data 0 place).mapError fun fault => .format fault.reason)

/-- The next `n` bytes. Their end has to be a place, and one inside. -/
def take (n : Nat) : PlaceReader Bytes := fun data start =>
  let stop := start + n
  if UInt64.size ≤ stop ∨ data.length < stop then
    some (.error (.format "document record truncated"))
  else (slice? data start stop).map fun bs => .ok (bs, stop)

def bytes : PlaceReader Bytes := number.andThen take

def field : PlaceReader Field :=
  bytes.andThen fun name => bytes.andThen fun value => done ⟨name, value⟩

def fields : Nat → PlaceReader (List Field)
  | 0 => done []
  | n + 1 => field.andThen fun f => (fields n).andThen fun fs => done (f :: fs)

def record : PlaceReader Document :=
  bytes.andThen fun id => number.andThen fun count => (fields count).andThen fun fs =>
    done ⟨if id.isEmpty then none else some id, fs⟩

end PlaceReader

section

variable {α β : Type} {look : PlaceReader α} {read : Bytes → Except Error (α × Bytes)}

/-- An answer at places against one of bytes: both refuse in the same words, or both find the same and stop
at the same place, which is inside. -/
inductive Finds (data : Bytes) :
    Option (Except Error (α × Nat)) → Except Error (α × Bytes) → Prop
  | error (e : Error) : Finds data (some (.error e)) (.error e)
  | ok (a : α) {stop : Nat} (inside : stop ≤ data.length) :
    Finds data (some (.ok (a, stop))) (.ok (a, data.drop stop))

theorem Finds.map_fst_eq {data : Bytes} {answer : Option (Except Error (α × Nat))}
    {result : Except Error (α × Bytes)} (h : Finds data answer result) :
    answer.map (·.map Prod.fst) = some (result.map Prod.fst) := by
  cases h with
  | error e => rfl
  | ok a inside => rfl

/-- A reader at places that goes along with a reader of bytes: it never looks outside, and finds the same.
What the reader of bytes has read does not depend on what follows, and all it refuses is refused for its
format. -/
structure Follows (look : PlaceReader α) (read : Bytes → Except Error (α × Bytes)) : Prop where
  extends_read : Extends fun bs => (read bs).toOption
  format {bs : Bytes} {e : Error} : read bs = .error e → ∃ reason, e = .format reason
  finds {data : Bytes} {place : Nat} : data.length < UInt64.size → place ≤ data.length →
    Finds data (look data place) (read (data.drop place))

theorem follows_done (a : α) : Follows (.done a) fun bs => .ok (a, bs) where
  extends_read := Bytes.extends_some a
  format h := by cases h
  finds _ hplace := .ok a hplace

/-- One part is read after the other. -/
theorem Follows.andThen {lookFirst : PlaceReader β} {first : Bytes → Except Error (β × Bytes)}
    {lookNext : β → PlaceReader α} {next : β → Bytes → Except Error (α × Bytes)}
    (hfirst : Follows lookFirst first) (hnext : ∀ b, Follows (lookNext b) (next b))
    (heq : ∀ bs, read bs = match first bs with
      | .error e => .error e
      | .ok (b, rest) => next b rest) : Follows (lookFirst.andThen lookNext) read where
  extends_read := by
    refine hfirst.extends_read.bind (fun b => (hnext b).extends_read) fun bs => ?_
    rw [heq]
    cases first bs <;> rfl
  format {bs e} h := by
    rw [heq] at h
    cases hpart : first bs with
    | error e' =>
      rw [hpart] at h
      rw [← Except.error.inj h]
      exact hfirst.format hpart
    | ok part =>
      rw [hpart] at h
      exact (hnext part.1).format h
  finds {data place} hsize hplace := by
    have hpart := hfirst.finds hsize hplace
    rw [heq, PlaceReader.andThen]
    generalize lookFirst data place = answer at hpart
    generalize first (data.drop place) = result at hpart
    cases hpart with
    | error e => exact .error e
    | ok b inside => exact (hnext b).finds hsize inside

theorem follows_number : Follows .number readVarint where
  extends_read := by
    intro bs n rest h more
    dsimp only at h ⊢
    rw [readVarint, Varint.decode, Varint.read] at h ⊢
    cases hread : Varint.readFrom 0 bs with
    | mk value used =>
      rw [hread] at h
      cases value with
      | error fault => cases h
      | ok n' =>
        obtain ⟨rfl, rfl⟩ := Prod.mk.inj (Option.some.inj h)
        obtain ⟨-, hle, hmore⟩ := Varint.readFrom_append hread
        rw [hmore more]
        simp only [Except.mapError, Except.toOption]
        rw [List.drop_append_of_le_length (by omega)]
  format {bs e} h := by
    rw [readVarint] at h
    cases hdecode : Varint.decode bs with
    | error fault =>
      rw [hdecode] at h
      exact ⟨_, (Except.error.inj h).symm⟩
    | ok part =>
      rw [hdecode] at h
      cases h
  finds {data place} _ hplace := by
    rw [PlaceReader.number, Varint.lookFrom_eq, readVarint, Varint.decode, Varint.read]
    cases hread : Varint.readFrom 0 (data.drop place) with
    | mk value used =>
      cases value with
      | error fault => exact .error _
      | ok n =>
        have hle := (Varint.readFrom_append hread).2.1
        rw [List.length_drop] at hle
        simp only [Except.mapError, List.drop_drop, Nat.sub_zero]
        exact .ok n (by omega)

theorem follows_take (n : Nat) : Follows (.take n) fun bs =>
    match bs.split? n with
    | none => .error (.format "document record truncated")
    | some part => .ok part where
  extends_read := by
    refine (Bytes.extends_split? n).bind Bytes.extends_some fun bs => ?_
    cases bs.split? n <;> rfl
  format {bs e} h := by
    cases hsplit : bs.split? n with
    | none =>
      rw [hsplit] at h
      exact ⟨_, (Except.error.inj h).symm⟩
    | some part =>
      rw [hsplit] at h
      cases h
  finds {data place} hsize hplace := by
    rw [PlaceReader.take, Bytes.split?_eq, List.length_drop]
    by_cases hinside : place + n ≤ data.length
    · rw [if_neg (by omega), if_pos (by omega), slice?_of_le rfl hinside, List.drop_drop]
      exact .ok (data.slice place n) hinside
    · rw [if_pos (by omega), if_neg (by omega)]
      exact .error _

theorem follows_bytes : Follows .bytes readBytes := by
  refine follows_number.andThen follows_take fun bs => ?_
  rw [readBytes]
  cases readVarint bs with
  | error e => rfl
  | ok part => rfl

theorem follows_field : Follows .field readField := by
  have hvalue (name : Bytes) := follows_bytes.andThen (fun value => follows_done (⟨name, value⟩ : Field))
    fun bs => rfl
  refine follows_bytes.andThen hvalue fun bs => ?_
  rw [readField]
  cases readBytes bs with
  | error e => rfl
  | ok name =>
    dsimp only
    cases readBytes name.2 <;> rfl

theorem follows_fields (n : Nat) : Follows (.fields n) (readFields n) := by
  induction n with
  | zero => exact follows_done []
  | succ n ih =>
    have hrest (f : Field) := ih.andThen (fun fs => follows_done (f :: fs)) fun bs => rfl
    refine follows_field.andThen hrest fun bs => ?_
    rw [readFields]
    cases readField bs with
    | error e => rfl
    | ok f =>
      dsimp only
      cases readFields n f.2 <;> rfl

/-- A record is read at a place as it is read from the front of what is left. -/
theorem follows_record : Follows .record readRecord := by
  have hfields (id : Bytes) (count : Nat) := (follows_fields count).andThen
    (fun fs => follows_done (⟨if id.isEmpty then none else some id, fs⟩ : Document)) fun bs => rfl
  have hcount (id : Bytes) := follows_number.andThen (hfields id) fun bs => rfl
  refine follows_bytes.andThen hcount fun bs => ?_
  rw [readRecord]
  cases readBytes bs with
  | error e => rfl
  | ok id =>
    dsimp only
    cases readVarint id.2 with
    | error e => rfl
    | ok count =>
      dsimp only
      cases readFields count.1 count.2 <;> rfl

end

/-- The document whose record starts at a place. -/
def readAt (data : Bytes) (place : Nat) : Except Error Document :=
  (readRecord (data.drop place)).map Prod.fst

theorem readAt_record {d : Document} (h : d.Addressable) (front back : Bytes) :
    readAt (front ++ d.record ++ back) front.length = .ok d.stored := by
  rw [readAt, List.append_assoc, List.drop_left, readRecord_record h]
  rfl

/-- Nothing that a record goes on from can be read. -/
theorem readRecord_of_prefix {d : Document} (h : d.Addressable) {part : Bytes}
    (hpart : part <+: d.record) (hne : part ≠ d.record) :
    ∃ reason, readRecord part = .error (.format reason) := by
  have hall : (readRecord d.record).toOption = some (d.stored, []) := by
    have hread := readRecord_record h []
    rw [List.append_nil] at hread
    rw [hread]
    rfl
  have hshort : part.length < d.record.length :=
    Nat.lt_of_le_of_ne hpart.length_le fun heq => hne (hpart.eq_of_length heq)
  have hnone := follows_record.extends_read.eq_none hall hshort
  rw [← List.prefix_iff_eq_take.mp hpart] at hnone
  cases hread : readRecord part with
  | error e =>
    obtain ⟨reason, rfl⟩ := follows_record.format hread
    exact ⟨reason, rfl⟩
  | ok found =>
    rw [hread] at hnone
    cases hnone

theorem record_eq_readAt {data : Bytes} (hsize : data.length < UInt64.size) (place : Nat) :
    (PlaceReader.record data place).map (·.map Prod.fst) = some (readAt data place) := by
  by_cases hplace : place ≤ data.length
  · exact (follows_record.finds hsize hplace).map_fst_eq
  · have hend : data.length ≤ place := Nat.le_of_not_le hplace
    have hnone : Varint.lookFrom data 0 place = .error .truncated := by
      rw [Varint.lookFrom_eq, List.drop_eq_nil_iff.mpr hend]
      rfl
    rw [readAt, List.drop_eq_nil_iff.mpr hend]
    simp only [PlaceReader.record, PlaceReader.bytes, PlaceReader.andThen, PlaceReader.number, hnone]
    rfl

/-- A document is read from where its record starts, whatever stands before the record and behind it; only
an empty identifier is lost. If the end of the record is missing, a format error is read. From any bytes and
any place either a document is read or a format error, whatever lengths and counts stand there, and nothing
that is looked at stands outside of the data. -/
theorem records_delimit_themselves :
    (∀ (d : Document) (front back : Bytes), d.Addressable →
      readAt (front ++ d.record ++ back) front.length = .ok d.stored ∧
      ∀ part : Bytes, part <+: d.record → part ≠ d.record →
        ∃ reason, readAt (front ++ part) front.length = .error (.format reason)) ∧
    ∀ (data : Bytes) (place : Nat),
      ((∃ d, readAt data place = .ok d) ∨ ∃ reason, readAt data place = .error (.format reason)) ∧
      (data.length < UInt64.size →
        (PlaceReader.record data place).map (·.map Prod.fst) = some (readAt data place)) := by
  refine ⟨fun d front back h => ⟨readAt_record h front back, ?_⟩,
    fun data place => ⟨?_, fun hsize => record_eq_readAt hsize place⟩⟩
  · intro part hpart hne
    obtain ⟨reason, hreason⟩ := readRecord_of_prefix h hpart hne
    refine ⟨reason, ?_⟩
    rw [readAt, List.drop_left, hreason]
    rfl
  · cases hread : readRecord (data.drop place) with
    | error e =>
      obtain ⟨reason, rfl⟩ := follows_record.format hread
      exact .inr ⟨reason, by rw [readAt, hread]; rfl⟩
    | ok found => exact .inl ⟨found.1, by rw [readAt, hread]; rfl⟩

/-- One field twice and an empty identifier; behind them a length that is the largest one a word can tell. -/
theorem records_delimit_themselves_twice :
    ∃ (d : Document) (back : Bytes), d = ⟨some [], [⟨[107], [1]⟩, ⟨[107], [1]⟩]⟩ ∧
      back = List.replicate 9 0xFF ++ [1] ∧
      readAt ([0x80] ++ d.record ++ back) 1 = .ok ⟨none, [⟨[107], [1]⟩, ⟨[107], [1]⟩]⟩ ∧
      (∃ reason, readAt ([0x80] ++ d.record.dropLast) 1 = .error (.format reason)) ∧
      (PlaceReader.record back 0).map (·.map Prod.fst) =
        some (.error (.format "document record truncated")) := by
  obtain ⟨hrecord, hbytes⟩ := records_delimit_themselves
  obtain ⟨d, hd⟩ : ∃ d : Document, d = ⟨some [], [⟨[107], [1]⟩, ⟨[107], [1]⟩]⟩ := ⟨_, rfl⟩
  have haddressable : d.Addressable := by
    subst hd
    exact ⟨by decide, by decide, by decide⟩
  obtain ⟨hread, hpart⟩ := hrecord d [0x80] (List.replicate 9 0xFF ++ [1]) haddressable
  have hne : d.record.dropLast ≠ d.record := by
    subst hd
    decide +kernel
  refine ⟨d, _, hd, rfl, ?_, hpart _ (List.dropLast_prefix _) hne, ?_⟩
  · rw [hd] at hread ⊢
    exact hread
  · exact ((hbytes (List.replicate 9 0xFF ++ [1]) 0).2 (by decide)).trans rfl

end Document

end InvertedIndex
