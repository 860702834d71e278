import InvertedIndex.Proofs.Dictionary.Trigram
import InvertedIndex.Proofs.Postings.Canonical
import InvertedIndex.Proofs.Trigram.Normal

namespace InvertedIndex.Dictionary

open InvertedIndex.Trigram (Query)
open Postings (Canonical)

theorem Exact.canonical_insert {d : Exact} (h : ∀ field value, (d.postings field value).Canonical)
    (field value : Bytes) (id : PostingsId) (name term : Bytes) :
    ((d.insert field value id).postings name term).Canonical := by
  rw [postings_insert]
  split
  · exact Postings.canonical_insert (h field value) id
  · exact h name term

namespace Trigram

/-- What insertions make of an empty dictionary. -/
def filled (inserts : Log) : Trigram := inserts.foldl (fun d (id, f) => d.insert f id) .empty

/-- The trigrams of any values are noted, also of such that are no text. -/
theorem represents_grams_foldl_insert {d : Trigram} {log : Log} (h : d.grams.Represents (gramLog log))
    (inserts : Log) :
    (inserts.foldl (fun d (id, f) => d.insert f id) d).grams.Represents (gramLog (inserts ++ log)) := by
  induction inserts generalizing d log with
  | nil => exact h
  | cons e inserts ih =>
    obtain ⟨id, f⟩ := e
    have hinsert : (d.insert f id).grams.Represents (gramLog ((id, f) :: log)) :=
      represents_foldl_insert h f.name id (gramsOf f.value)
    refine (ih hinsert).of_mem_iff fun ⟨i, name, gram⟩ => ?_
    simp only [mem_gramLog_iff, List.perm_middle.mem_iff, List.cons_append]

theorem represents_grams_filled (inserts : Log) :
    (filled inserts).grams.Represents (gramLog inserts) := by
  have hempty : Trigram.empty.grams.Represents (gramLog []) := Exact.represents_empty
  have hfill := represents_grams_foldl_insert hempty inserts
  rwa [List.append_nil] at hfill

theorem canonical_grams_foldl {d : Exact} (h : ∀ field gram, (d.postings field gram).Canonical)
    (name : Bytes) (id : PostingsId) (grams : List Bytes) (field gram : Bytes) :
    ((grams.foldl (fun d gram => d.insert name gram id) d).postings field gram).Canonical := by
  induction grams generalizing d with
  | nil => exact h field gram
  | cons g grams ih => exact ih (Exact.canonical_insert h name g id)

theorem canonical_grams_filled (inserts : Log) (field gram : Bytes) :
    ((filled inserts).grams.postings field gram).Canonical := by
  have hkeep (d : Trigram) (h : ∀ field gram, (d.grams.postings field gram).Canonical) :
      ((inserts.foldl (fun d (id, f) => d.insert f id) d).grams.postings field gram).Canonical := by
    induction inserts generalizing d with
    | nil => exact h field gram
    | cons e inserts ih =>
      exact ih (d.insert e.2 e.1) (canonical_grams_foldl h e.2.name e.1 (gramsOf e.2.value))
  exact hkeep .empty fun _ _ => Postings.canonical_empty

/-- Set operations keep the canonical form. -/
theorem kept_canonical : Kept Canonical where
  empty := Postings.canonical_empty
  inter q hp := Postings.canonical_inter hp q
  union hp hq := Postings.canonical_union hp hq

/-- The candidates of a query are in the canonical form, of which each set has one. -/
theorem canonical_evaluate_filled (inserts : Log) (field : Bytes) (q : Query) :
    ((filled inserts).evaluate field q).Canonical :=
  kept_canonical.evaluate (canonical_grams_filled inserts) field q

/-- Queries that mean the same have the same candidates. -/
theorem evaluate_congr (inserts : Log) (field : Bytes) {p q : Query}
    (h : ∀ ts, p.holds ts = q.holds ts) :
    (filled inserts).evaluate field p = (filled inserts).evaluate field q := by
  apply (canonical_evaluate_filled inserts field p).eq_of_contains
    (canonical_evaluate_filled inserts field q)
  intro id
  have hfilled := represents_grams_filled inserts
  rw [Bool.eq_iff_iff, contains_evaluate hfilled, contains_evaluate hfilled, h]

/-- The candidates of a query are the numbers that have the field and whose trigrams in it, those of all
their values together, satisfy the query. Simplifying leaves the candidates as they are and leads to a normal
query, which is not simplified further. -/
theorem simplifying_keeps_candidates (inserts : Log) (field : Bytes) (q : Query) :
    (∀ id, ((filled inserts).evaluate field q).contains id = true ↔
      (∃ value, (id, ⟨field, value⟩) ∈ inserts) ∧ q.holds (windowsIn inserts field id) = true) ∧
    (filled inserts).evaluate field q.simplify = (filled inserts).evaluate field q ∧
    q.simplify.Normal ∧ q.simplify.simplify = q.simplify := by
  have hnormal := Query.normal_simplify q
  refine ⟨fun id => contains_evaluate (represents_grams_filled inserts) field id q, ?_, hnormal,
    hnormal.simplify_eq⟩
  exact evaluate_congr inserts field fun ts => Query.holds_simplify ts q

end Trigram

end InvertedIndex.Dictionary
