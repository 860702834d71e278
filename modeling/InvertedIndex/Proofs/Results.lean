namespace InvertedIndex.Results

variable {ε α β : Type}

theorem map_eq_ok {f : α → β} {x : Except ε α} {b : β} (h : x.map f = .ok b) :
    ∃ a, x = .ok a ∧ f a = b := by
  cases x with
  | error e => cases h
  | ok a => exact ⟨a, rfl, Except.ok.inj h⟩

theorem map_eq_error {f : α → β} {x : Except ε α} {e : ε} (h : x.map f = .error e) :
    x = .error e := by
  cases x with
  | error e' => rw [Except.error.inj h]
  | ok a => cases h

/-- A list is gone through without failure if every member gives a result. -/
theorem mapM_eq_ok {f : α → Except ε β} {g : α → Option β} {xs : List α}
    (h : ∀ x ∈ xs, ∃ y, g x = some y ∧ f x = .ok y) : xs.mapM f = .ok (xs.filterMap g) := by
  induction xs with
  | nil => rfl
  | cons x xs ih =>
    obtain ⟨y, hg, hf⟩ := h x (by simp)
    have hrest := ih fun z hz => h z (by simp [hz])
    rw [List.mapM_cons, hf, hrest, List.filterMap_cons_some hg]
    rfl

end InvertedIndex.Results
