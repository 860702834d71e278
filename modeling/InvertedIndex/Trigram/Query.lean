import InvertedIndex.Trigram
import InvertedIndex.Bytes.Sorted

namespace InvertedIndex.Trigram

/-- Conditions on the trigrams of a value. -/
inductive Query where
  | all
  | none
  | trigram (t : Trigram)
  | and (subs : List Query)
  | or (subs : List Query)
  deriving Repr

namespace Query

mutual

def same : Query → Query → Bool
  | all, all => true
  | none, none => true
  | trigram s, trigram t => s = t
  | and ps, and qs => sameAll ps qs
  | or ps, or qs => sameAll ps qs
  | _, _ => false

def sameAll : List Query → List Query → Bool
  | [], [] => true
  | p :: ps, q :: qs => same p q && sameAll ps qs
  | _, _ => false

end

mutual

theorem same_refl : (q : Query) → same q q = true
  | all => rfl
  | none => rfl
  | trigram _ => by simp [same]
  | and subs => by rw [same, sameAll_refl subs]
  | or subs => by rw [same, sameAll_refl subs]

theorem sameAll_refl : (qs : List Query) → sameAll qs qs = true
  | [] => rfl
  | q :: qs => by rw [sameAll, same_refl q, sameAll_refl qs]; rfl

end

mutual

theorem eq_of_same : (p q : Query) → same p q = true → p = q
  | all, q, h | none, q, h => by cases q <;> simp_all [same]
  | trigram _, q, h => by cases q <;> simp_all [same]
  | and ps, q, h => by
    cases q with
    | and qs => rw [eq_of_sameAll ps qs h]
    | _ => simp [same] at h
  | or ps, q, h => by
    cases q with
    | or qs => rw [eq_of_sameAll ps qs h]
    | _ => simp [same] at h

theorem eq_of_sameAll : (ps qs : List Query) → sameAll ps qs = true → ps = qs
  | [], qs, h => by cases qs <;> simp_all [sameAll]
  | p :: ps, qs, h => by
    cases qs with
    | nil => simp [sameAll] at h
    | cons q qs =>
      rw [sameAll, Bool.and_eq_true] at h
      rw [eq_of_same p q h.1, eq_of_sameAll ps qs h.2]

end

instance : DecidableEq Query := fun p q =>
  decidable_of_iff (same p q = true) ⟨eq_of_same p q, fun h => h ▸ same_refl p⟩

/-- Keeps the first of equal queries. -/
def distinct (qs : List Query) : List Query :=
  (qs.foldl (fun seen q => if seen.contains q then seen else q :: seen) []).reverse

/-- What a part adds to a conjunction: its own parts, one part, or nothing. -/
def conjuncts : Query → List Query
  | all => []
  | and subs => subs
  | q => [q]

def disjuncts : Query → List Query
  | none => []
  | or subs => subs
  | q => [q]

def isAll : Query → Bool
  | all => true
  | _ => false

def isNone : Query → Bool
  | none => true
  | _ => false

/-- The conjunction of simplified parts. -/
def conjunction (subs : List Query) : Query :=
  if subs.any isNone then none
  else
    match distinct (subs.flatMap conjuncts) with
    | [] => all
    | [q] => q
    | qs => and qs

/-- The disjunction of simplified parts. -/
def disjunction (subs : List Query) : Query :=
  if subs.any isAll then all
  else
    match distinct (subs.flatMap disjuncts) with
    | [] => none
    | [q] => q
    | qs => or qs

mutual

/-- Flattens conditions and leaves no constant and no repetition inside. -/
def simplify : Query → Query
  | and subs => conjunction (simplifyAll subs)
  | or subs => disjunction (simplifyAll subs)
  | q => q

def simplifyAll : List Query → List Query
  | [] => []
  | q :: qs => simplify q :: simplifyAll qs

end

mutual

/-- Whether a value with exactly the trigrams `ts` passes. -/
def holds (ts : List Trigram) : Query → Bool
  | all => true
  | none => false
  | trigram t => ts.contains t
  | and subs => holdsAll ts subs
  | or subs => holdsAny ts subs

def holdsAll (ts : List Trigram) : List Query → Bool
  | [] => true
  | q :: qs => holds ts q && holdsAll ts qs

def holdsAny (ts : List Trigram) : List Query → Bool
  | [] => false
  | q :: qs => holds ts q || holdsAny ts qs

end

/-- Every trigram of `value` occurs. Values that are too short for one pass always. -/
def ofLiteral (value : Bytes) : Query :=
  simplify (.and ((Bytes.sorted ((windows value).map toBytes)).filterMap ofBytes?))
where
  ofBytes? : Bytes → Option Query
    | [a, b, c] => some (trigram ⟨a, b, c⟩)
    | _ => Option.none

end Query

end InvertedIndex.Trigram
