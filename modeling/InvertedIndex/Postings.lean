import InvertedIndex.Error
import InvertedIndex.Postings.Block
import InvertedIndex.Postings.Search

namespace InvertedIndex

/-- The number of a document in its segment. -/
abbrev PostingsId := UInt32

namespace PostingsId

/-- The number that is never given to a document. -/
def last : PostingsId := 0xFFFFFFFF

/-- The number behind a number. Behind the last one there is none, and that is not tested for. -/
def next (id : PostingsId) : Except Error PostingsId :=
  if id = last then .error .overflow else .ok (id + 1)

def debugText (id : PostingsId) : String := "PostingsId(" ++ toString id.toNat ++ ")"

/-- The upper half of a number, by which its block is found. -/
def high (id : PostingsId) : Nat := id.toNat / 0x10000

/-- The lower half of a number, which its block holds. -/
def low (id : PostingsId) : Nat := id.toNat % 0x10000

/-- The successor of any number but the last does not run over. -/
theorem toNat_succ_of_ne_last {id : PostingsId} (h : id ≠ last) : (id + 1).toNat = id.toNat + 1 := by
  have hne : id.toNat ≠ 0xFFFFFFFF := fun heq => h (UInt32.toNat_inj.mp heq)
  have hlt := id.toNat_lt
  rw [UInt32.toNat_add, UInt32.toNat_one]
  omega

/-- There is a next number for all but the last, and it is never any smaller. -/
theorem next_eq_ok_iff {id n : PostingsId} : id.next = .ok n ↔ n.toNat = id.toNat + 1 := by
  unfold next
  split
  · next h =>
    have hlt := n.toNat_lt
    have hlast : id.toNat = 0xFFFFFFFF := congrArg UInt32.toNat h
    exact iff_of_false (by simp) (by omega)
  · next h => rw [← toNat_succ_of_ne_last h, Except.ok.injEq, UInt32.toNat_inj, eq_comm]

theorem low_lt (id : PostingsId) : id.low < Postings.Lows.limit := Nat.mod_lt _ (by decide)

theorem toNat_eq (id : PostingsId) : id.toNat = 0x10000 * id.high + id.low :=
  (Nat.div_add_mod _ _).symm

theorem eq_iff {id x : PostingsId} : id = x ↔ id.high = x.high ∧ id.low = x.low := by
  constructor
  · rintro rfl
    exact ⟨rfl, rfl⟩
  · rintro ⟨hhigh, hlow⟩
    apply UInt32.toNat.inj
    rw [toNat_eq, toNat_eq, hhigh, hlow]

end PostingsId

/-- Lists of document numbers, in blocks that agree in their upper 16 bits. -/
structure Postings where
  blocks : List Postings.Block
  deriving DecidableEq

namespace Postings

def empty : Postings := ⟨[]⟩

instance : EmptyCollection Postings := ⟨empty⟩

instance : Inhabited Postings := ⟨empty⟩

def keys (p : Postings) : List Nat := p.blocks.map Block.key

/-- A list whose keys ascend is a set. One that was read may have keys in any order, also twice. -/
def Ordered (p : Postings) : Prop := p.keys.Pairwise (· < ·)

/-- The blocks before the place of a key, the block of that key, and the blocks behind it. -/
def split (p : Postings) (key : Nat) : List Block × Option Block × List Block :=
  let (i, found) := locate key p.keys
  let back := p.blocks.drop i
  if found then (p.blocks.take i, back.head?, back.tail) else (p.blocks.take i, none, back)

def find? (p : Postings) (key : Nat) : Option Block := (p.split key).2.1

/-- Changes, adds or drops the block of a key. -/
def alter (p : Postings) (key : Nat) (f : Option Block → Option Block) : Postings :=
  let (front, here, back) := p.split key
  ⟨front ++ (f here).toList ++ back⟩

def contains (p : Postings) (id : PostingsId) : Bool := (p.find? id.high).any (·.contains id.low)

def size (p : Postings) : Nat := p.blocks.foldr (fun b n => b.size + n) 0

def isEmpty (p : Postings) : Bool := p.blocks.isEmpty

/-- The number with the given halves. -/
def join (key low : Nat) : PostingsId := .ofNat (0x10000 * key + low)

/-- The members, block by block. -/
def toList (p : Postings) : List PostingsId :=
  p.blocks.flatMap fun b => b.lows.toList.map (join b.key)

/-- The first member of the first block. -/
def least? (p : Postings) : Option PostingsId :=
  p.blocks.head?.bind fun b => b.lows.least?.map (join b.key)

/-- The last member of the last block. -/
def greatest? (p : Postings) : Option PostingsId :=
  p.blocks.getLast?.bind fun b => b.lows.greatest?.map (join b.key)

def least (p : Postings) : Except Error PostingsId :=
  match p.least? with
  | some id => .ok id
  | none => .error .emptyPostings

def greatest (p : Postings) : Except Error PostingsId :=
  match p.greatest? with
  | some id => .ok id
  | none => .error .emptyPostings

def debugText (p : Postings) : String :=
  "\x7b" ++ String.intercalate ", " (p.toList.map fun id => toString id.toNat) ++ "\x7d"

def insert (p : Postings) (id : PostingsId) : Postings :=
  p.alter id.high fun b => some ((b.getD (.empty id.high)).insert id.low)

def remove (p : Postings) (id : PostingsId) : Postings :=
  p.alter id.high fun b => b.bind (·.remove? id.low)

/-- Adds what the numbers from `lo` up to and without `hi` have in the block of a key. -/
def fill (lo hi : Nat) (p : Postings) (key : Nat) : Postings :=
  p.alter key fun b =>
    some ((b.getD (.empty key)).insertRange (lo - 0x10000 * key) (hi - 0x10000 * key))

/-- Adds the numbers from `lo` up to and without `hi`. Where they have several blocks, the first one
is there before any of them is filled. -/
def insertBetween (p : Postings) (lo hi : Nat) : Postings :=
  let first := lo / 0x10000
  let last := (hi - 1) / 0x10000
  if hi ≤ lo then p
  else if first = last then fill lo hi p first
  else
    (List.range' first (last - first + 1)).foldl (fill lo hi)
      (p.alter first fun b => some (b.getD (.empty first)))

/-- Drops the numbers from `lo` up to and without `hi`. -/
def removeBetween (p : Postings) (lo hi : Nat) : Postings :=
  if hi ≤ lo then p
  else
    ⟨p.blocks.filterMap fun b =>
      if lo / 0x10000 ≤ b.key ∧ b.key ≤ (hi - 1) / 0x10000 then
        b.removeRange? (lo - 0x10000 * b.key) (hi - 0x10000 * b.key)
      else some b⟩

def insertRange (p : Postings) (lo hi : PostingsId) : Postings := p.insertBetween lo.toNat hi.toNat

def ofRange (lo hi : PostingsId) : Postings := empty.insertRange lo hi

def removeRange (p : Postings) (lo hi : PostingsId) : Postings := p.removeBetween lo.toNat hi.toNat

/-- Drops the numbers from `min` on. -/
def truncate (p : Postings) (min : PostingsId) : Postings := p.removeBetween min.toNat UInt32.size

/-- Adds a block, or its members to the block of its key. -/
def merge (p : Postings) (c : Block) : Postings :=
  p.alter c.key fun b => some (b.elim c (·.union c))

def union (p q : Postings) : Postings := q.blocks.foldl merge p

def inter (p q : Postings) : Postings :=
  ⟨p.blocks.filterMap fun b => (q.find? b.key).bind b.inter?⟩

def diff (p q : Postings) : Postings :=
  ⟨p.blocks.filterMap fun b => (q.find? b.key).elim (some b) b.diff?⟩

def unionAll (p : Postings) (qs : List Postings) : Postings := qs.foldl union p

def pairs : List Postings → List Postings
  | p :: q :: rest => p.union q :: pairs rest
  | ps => ps

theorem length_pairs_le (ps : List Postings) : (pairs ps).length ≤ ps.length := by
  fun_induction pairs ps with
  | case1 p q rest ih => simp only [List.length_cons]; omega
  | case2 => exact Nat.le_refl _

/-- The union of all. It is taken in pairs, so that many small lists cost little. -/
def unionOf : List Postings → Postings
  | [] => empty
  | [p] => p
  | p :: q :: rest => unionOf (p.union q :: pairs rest)
termination_by ps => ps.length
decreasing_by
  have h := length_pairs_le rest
  simp only [List.length_cons]
  omega

def ofList (ids : List PostingsId) : Postings :=
  unionOf (((ids.map UInt32.toNat).foldr Lows.extend []).map fun (lo, hi) =>
    empty.insertBetween lo hi)

end Postings

end InvertedIndex
