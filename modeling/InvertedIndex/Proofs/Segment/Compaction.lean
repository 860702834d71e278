import InvertedIndex.Proofs.Segment.Merge

namespace InvertedIndex.Segment.Build

open Source (letters)

variable {format : KeyFormat} {base : PostingsId} {sources : List Source} {d : Data} {f : Immutable}

/-- What was built can be opened, and hands out what was merged. -/
theorem documents_of_build (hmade : ∀ source ∈ sources, source.Made format)
    (hd : build format base sources = .ok d)
    (hsize : d.Addressable) (hf : Immutable.openData format.decode? d = .ok f) :
    (Source.fromImmutable f).documents = merge sources := by
  have hands := fun source hs => hands_of_made (hmade source hs)
  obtain ⟨ds, hds, -, hopen, hc⟩ := opened_of_build hands hd hsize
  obtain rfl := Except.ok.inj (hopen.symm.trans hf)
  rw [hds]
  exact hc.allDocuments_eq

/-- Documents that can be told apart are merged as they are. -/
theorem mergeInto_fromImmutable {ds : List Document} (hdocuments : (Source.fromImmutable f).documents = .ok ds)
    (hdistinct : Distinct Document.id ds) (more : List Source) :
    mergeInto [] (.fromImmutable f :: more) = mergeInto ds more := by
  have hjoin : ds.foldl (join Document.id) [] = ds := foldl_join_of_distinct hdistinct
  have hkeep : ds.filter (Merged.isOutside (Source.fromImmutable f).tombstones ∘ Document.id) = ds := by
    apply List.filter_eq_self.mpr
    intro d _
    cases hid : d.id <;> simp [Source.tombstones, Merged.isOutside, hid]
  rw [mergeInto, hdocuments]
  dsimp only
  rw [hjoin, hkeep]

/-- A segment that was built stands for its sources. -/
theorem merge_fromImmutable (hmade : ∀ source ∈ sources, source.Made format)
    (hd : build format base sources = .ok d)
    (hsize : d.Addressable) (hf : Immutable.openData format.decode? d = .ok f) (more : List Source) :
    merge (.fromImmutable f :: more) = merge (sources ++ more) := by
  have hdocuments := documents_of_build hmade hd hsize hf
  obtain ⟨ds, hds, -⟩ := build_eq_ok_iff.mp hd
  rw [hds] at hdocuments
  rw [merge_eq, mergeInto_fromImmutable hdocuments (distinct_of_merge hds), merge_eq, mergeInto_append,
    ← merge_eq, hds]

/-- Building on a segment that was built gives what building on its sources gives: the same error, or
the same data in every region. Built again alone at its own base, a segment stays as it is. -/
theorem build_in_steps (hmade : ∀ source ∈ sources, source.Made format)
    (hd : build format base sources = .ok d)
    (hsize : d.Addressable) (hf : Immutable.openData format.decode? d = .ok f) :
    (∀ (base' : PostingsId) (more : List Source),
      build format base' ([.fromImmutable f] ++ more) = build format base' (sources ++ more)) ∧
    build format base [.fromImmutable f] = .ok d := by
  have hsteps (base' : PostingsId) (more : List Source) :
      build format base' ([.fromImmutable f] ++ more) = build format base' (sources ++ more) := by
    rw [build, build, List.singleton_append, merge_fromImmutable hmade hd hsize hf]
  refine ⟨hsteps, ?_⟩
  have halone := hsteps base []
  rw [List.append_nil, List.append_nil] at halone
  rw [halone, hd]

/-- What was removed in the first step comes back in the second one, behind the rest. -/
theorem build_in_steps_letters :
    ∃ d f, build .listed 5 [letters [97, 98] [], letters [99] [97]] = .ok d ∧
      Immutable.openData KeyFormat.listed.decode? d = .ok f ∧
      build .listed 5 [.fromImmutable f] = .ok d ∧
      build .listed 7 ([.fromImmutable f] ++ [letters [97, 98] []]) =
        .ok (write .listed 7 [Session.letter 98, Session.letter 99, Session.letter 97]) := by
  have hmade : ∀ source ∈ [letters [97, 98] [], letters [99] [97]], source.Made .listed := by
    simp [Source.made_letters]
  have haddressable : (write .listed 5 [Session.letter 98, Session.letter 99]).Addressable := by
    decide +kernel
  have hroom : (5 : PostingsId).toNat + [Session.letter 98, Session.letter 99].length ≤
      PostingsId.last.toNat := by decide
  have hopen : Immutable.openData KeyFormat.listed.decode? (write .listed 5 [Session.letter 98, Session.letter 99]) =
      .ok ⟨some (contentsOf .listed 5 [Session.letter 98, Session.letter 99])⟩ :=
    openData_write hroom haddressable
  obtain ⟨hsteps, halone⟩ := build_in_steps hmade (rfl : build .listed 5 _ = _) haddressable hopen
  exact ⟨_, _, rfl, hopen, halone, (hsteps 7 [letters [97, 98] []]).trans rfl⟩

end InvertedIndex.Segment.Build
