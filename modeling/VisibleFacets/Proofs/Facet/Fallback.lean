import VisibleFacets.Proofs.Facet.Reuse
import VisibleFacets.Proofs.Search.Exhaustion

/-!
# Estimates of few hits

Where fewer hits are claimed than the sample asks for, an estimate is the secure count, and what was
looked up before is not looked at: `statisticalFacets_fallback`.
-/

namespace VisibleFacets

variable {σ τ : Type}

theorem Backend.recorded_aggregate {backend : Backend σ} {query : Query} {limit : Nat}
    {state next : σ} {answer : Except Error FacetTable}
    (aggregated : backend.aggregate query limit state = (answer, next)) (calls : List Call) :
    backend.recorded.aggregate query limit (state, calls) =
      (answer, next, calls ++ [.aggregation query limit]) := by
  simp only [recorded, aggregated]

section Served

variable {backend : Backend σ} {visibility : Visibility τ} {query : Query} {plan : SamplePlan}
  {bench middle : Bench σ τ} {all visible : List Hit} {checks : τ} {served : Nat → σ}
  {snapshot : Option Snapshot} {table : FacetTable} {limit total : Nat}

/-- Whatever table and total were obtained, if the total is too small for a sample. -/
theorem Backend.Serves.run_statisticalFacets_few [Memory]
    (serves : backend.Serves query plan.batchSize all served) (valid : plan.validate = .ok ())
    (few : total < plan.sampleSize)
    (asked : (candidates backend query snapshot plan.batchSize limit).run bench =
      some (.ok (table, total), middle))
    (start : middle.observed.state = served 0)
    (sifts : visibility.Sifts middle.checks all visible checks) :
    ∃ signals, (statisticalFacets backend visibility query plan snapshot limit).run bench =
      some (.ok (countFacets (labelsOf visible) query.facets limit),
        ⟨⟨served (all.length / plan.batchSize + 1), signals⟩, checks⟩) := by
  have positive := (plan.validate_eq_ok_iff.mp valid).2
  have told : (middle.report [.event (.countingExactly plan.sampleSize total)]).observed.state =
      served 0 := start
  obtain ⟨signals, counted⟩ := serves.run_secureFacets positive told sifts limit
  obtain ⟨others, estimated⟩ := run_statisticalFacets_exact valid few asked counted
  exact ⟨_, estimated⟩

end Served

/-- The secure count of a corpus takes so many pages. Where a snapshot that covers the limit claims
fewer hits than the sample asks for, the estimate is this count, from these calls alone and with the
same checks, whatever else the snapshot holds. Without such a snapshot it is the same if the corpus
has fewer matches, and the calls come after those that look up the total. The table is one for all
seeds and batch sizes. -/
theorem statisticalFacets_fallback [Memory] {corpus : Corpus} {visibility : Visibility τ}
    {shown : Hit → Bool} {query : Query} {terms : List Term}
    (steady : corpus.failAfterPages = none) (parsed : Query.terms query.text.toList = .ok terms)
    (decides : visibility.Decides shown) (limit : Nat) :
    ∃ table, Tabulates (labelsOf (corpus.visible terms shown)) query.facets limit table ∧
      ∀ plan : SamplePlan, plan.validate = .ok () → ∀ bench : Bench (Usage × List Call) τ,
        let pages := (corpus.selected terms).length / plan.batchSize + 1
        ∃ alone,
          (secureFacets corpus.backend.recorded visibility query plan.batchSize limit).run bench =
            some (.ok table, alone) ∧
          alone.observed.state = Corpus.served query plan.batchSize bench.observed.state pages ∧
          (∀ snapshot : Snapshot, limit ≤ snapshot.numFacets →
            snapshot.totalDocuments < plan.sampleSize → ∃ after,
              (statisticalFacets corpus.backend.recorded visibility query plan (some snapshot)
                limit).run bench = some (.ok table, after) ∧
              after.observed.state = alone.observed.state ∧ after.checks = alone.checks) ∧
          (∀ snapshot : Option Snapshot, (∀ held ∈ snapshot, held.numFacets < limit) →
            (corpus.selected terms).length < plan.sampleSize → ∃ after,
              (statisticalFacets corpus.backend.recorded visibility query plan snapshot limit).run
                bench = some (.ok table, after) ∧
              after.observed.state.2 = bench.observed.state.2 ++
                [.aggregation query limit, .fetch query plan.batchSize 0] ++
                Call.pages query plan.batchSize pages ∧
              after.checks = alone.checks) := by
  refine ⟨_, countFacets_tabulates _ _ _, fun plan valid bench => ?_⟩
  have positive := (plan.validate_eq_ok_iff.mp valid).2
  have serves (state : Usage × List Call) :=
    corpus.serves_recorded steady parsed plan.batchSize state
  obtain ⟨last, sifts⟩ := (decides.on (corpus.hits terms)).sifts bench.checks
  obtain ⟨signals, counted⟩ := (serves bench.observed.state).run_secureFacets positive
    (Corpus.served_zero _).symm sifts limit
  rw [← Corpus.length_hits]
  refine ⟨_, counted, rfl, ?covered, ?fresh⟩
  case covered =>
    intro snapshot covered few
    have asked : (candidates corpus.backend.recorded query (some snapshot) plan.batchSize
        limit).run bench = some (.ok (snapshot.table limit, snapshot.totalDocuments), bench) := by
      rw [candidates_of_covered covered, Counting.run_pure]
    obtain ⟨signals, estimated⟩ := (serves bench.observed.state).run_statisticalFacets_few valid few
      asked (Corpus.served_zero _).symm sifts
    exact ⟨_, estimated, rfl, rfl⟩
  case fresh =>
    intro snapshot small few
    have uncovered : Snapshot.covering? snapshot limit = none := by
      cases snapshot with
      | none => rfl
      | some held => exact Snapshot.covering?_of_lt (small held rfl)
    have tabled : corpus.backend.aggregate query limit bench.observed.state.1 = (.ok _, _) :=
      Prod.ext (corpus.table_eq parsed limit) rfl
    have aggregated := Backend.recorded_aggregate tabled bench.observed.state.2
    have fetched := Backend.recorded_fetchPage (Corpus.fetchPage_eq steady parsed plan.batchSize 0
      { bench.observed.state.1 with aggregations := bench.observed.state.1.aggregations + 1 })
      (bench.observed.state.2 ++ [.aggregation query limit])
    obtain ⟨signals, asked⟩ := run_candidates_fresh uncovered aggregated fetched
    obtain ⟨signals, estimated⟩ := (serves _).run_statisticalFacets_few valid few asked
      (Corpus.served_zero _).symm sifts
    refine ⟨_, estimated, ?_, rfl⟩
    simp [Corpus.served]

/-- The snapshot claims one document of three, and has a facet and a label that nobody asked for. -/
theorem statisticalFacets_fallback_stale :
    let corpus : Corpus := { documents := [⟨"a", .ofList [("kind", .string "x")], ["all"]⟩,
      ⟨"b", .ofList [("kind", .string "y")], ["root"]⟩, ⟨"c", .empty, ["all"]⟩] }
    let query : Query := ⟨"*", ["kind"]⟩
    let visibility := Visibility.ofPredicate fun hit => "all" ∈ hit.readers
    let snapshot : Snapshot := ⟨.ofList [("size", [⟨"z", 9⟩])], 1, 5⟩
    ∃ table after,
      Tabulates (labelsOf (corpus.visible [] fun hit => "all" ∈ hit.readers)) ["kind"] 5 table ∧
      (statisticalFacets corpus.backend.recorded visibility query ⟨2, 7, 2⟩ (some snapshot) 5).run
        ⟨⟨({}, []), []⟩, 0⟩ = some (.ok table, after) ∧
      after.observed.state = (⟨2, 0⟩, [.fetch query 2 0, .fetch query 2 2]) := by
  intro corpus query visibility snapshot
  have steady : corpus.failAfterPages = none := rfl
  have parsed : Query.terms query.text.toList = .ok [] := by decide
  have decides : visibility.Decides fun hit => "all" ∈ hit.readers := fun _ _ => rfl
  have three : (corpus.selected []).length = 3 := by decide
  obtain ⟨table, tabulates, counts⟩ := statisticalFacets_fallback steady parsed decides 5
  obtain ⟨alone, -, state, covered, -⟩ := counts ⟨2, 7, 2⟩ rfl ⟨⟨({}, []), []⟩, 0⟩
  obtain ⟨after, estimated, same, -⟩ := covered snapshot (Nat.le_refl 5) Nat.one_lt_two
  rw [three] at state
  exact ⟨table, after, tabulates, estimated, same.trans state⟩

end VisibleFacets
