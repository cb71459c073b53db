import VisibleFacets.Proofs.Facet.Answer
import VisibleFacets.Proofs.Search.Calls

/-!
# Counts from snapshots

A snapshot of the corpus that covers the limit gives the table that the corpus would give, and saves
the calls for it. One that does not is not looked at. Both are in `snapshot_reuse`.
-/

namespace VisibleFacets

variable {σ τ : Type}

/-! ## Snapshots that cover a limit, and others -/

section Steps

variable {backend : Backend σ} {visibility : Visibility τ} {query : Query} {plan : SamplePlan}
  {snapshot : Snapshot} {limit : Nat}

theorem Snapshot.covering?_of_le (covered : limit ≤ snapshot.numFacets) :
    covering? (some snapshot) limit = some snapshot := by
  simp [covering?, covers, covered]

theorem Snapshot.covering?_of_lt (small : snapshot.numFacets < limit) :
    covering? (some snapshot) limit = none := by
  simp [covering?, covers, small]

theorem insecureFacets_of_covered (covered : limit ≤ snapshot.numFacets) :
    (insecureFacets backend query (some snapshot) limit : Counting σ τ FacetTable) =
      pure (snapshot.table limit) := by
  rw [insecureFacets, Snapshot.covering?_of_le covered]

theorem candidates_of_covered (covered : limit ≤ snapshot.numFacets) (batchSize : Nat) :
    (candidates backend query (some snapshot) batchSize limit :
        Counting σ τ (FacetTable × Nat)) =
      pure (snapshot.table limit, snapshot.totalDocuments) := by
  rw [candidates, Snapshot.covering?_of_le covered]

theorem insecureFacets_of_small (small : snapshot.numFacets < limit) :
    (insecureFacets backend query (some snapshot) limit : Counting σ τ FacetTable) =
      insecureFacets backend query none limit := by
  rw [insecureFacets, insecureFacets, Snapshot.covering?_of_lt small]
  rfl

theorem statisticalFacets_of_small [Memory] (small : snapshot.numFacets < limit) :
    statisticalFacets backend visibility query plan (some snapshot) limit =
      statisticalFacets backend visibility query plan none limit := by
  have asked : (candidates backend query (some snapshot) plan.batchSize limit :
      Counting σ τ (FacetTable × Nat)) = candidates backend query none plan.batchSize limit := by
    rw [candidates, candidates, Snapshot.covering?_of_lt small]
    rfl
  rw [statisticalFacets, asked, ← statisticalFacets]

end Steps

/-! ## Snapshots of a corpus -/

/-- From this bench the count ends with the same table with the snapshot as without it. With it no
aggregation is made, and so many page fetches fewer. -/
def Saves (count : Option Snapshot → Counting Usage τ FacetTable) (snapshot : Snapshot)
    (fetches : Nat) (bench : Bench Usage τ) : Prop :=
  ∃ table fresh reused,
    (count none).run bench = some (.ok table, fresh) ∧
    (count (some snapshot)).run bench = some (.ok table, reused) ∧
    reused.observed.state.aggregations = bench.observed.state.aggregations ∧
    fresh.observed.state.pageFetches = reused.observed.state.pageFetches + fetches ∧
    fresh.checks = reused.checks

section Corpus

variable [Memory] {corpus : Corpus} {visibility : Visibility τ} {query : Query} {terms : List Term}
  {plan : SamplePlan} {captured limit : Nat}

/-- The snapshot of a count of so many labels. -/
def Corpus.snapshot (corpus : Corpus) (terms : List Term) (facets : List String)
    (captured : Nat) : Snapshot :=
  ⟨countFacets (labelsOf (corpus.hits terms)) facets captured, (corpus.hits terms).length, captured⟩

theorem Corpus.table_snapshot (facets : List String) (covered : limit ≤ captured) :
    (corpus.snapshot terms facets captured).table limit =
      countFacets (labelsOf (corpus.hits terms)) facets limit :=
  countFacets_take _ facets covered

theorem insecureFacets_saves (parsed : Query.terms query.text.toList = .ok terms)
    (covered : limit ≤ captured) (bench : Bench Usage τ) :
    Saves (insecureFacets corpus.backend query · limit)
      (corpus.snapshot terms query.facets captured) 0 bench := by
  have tabled : corpus.table query limit = _ := corpus.table_eq parsed limit
  refine ⟨_, _, bench, run_insecureFacets tabled bench, ?_, rfl, rfl, rfl⟩
  show (insecureFacets corpus.backend query (some _) limit).run bench = _
  rw [insecureFacets_of_covered covered, corpus.table_snapshot query.facets covered,
    Counting.run_pure]

theorem statisticalFacets_saves (steady : corpus.failAfterPages = none)
    (parsed : Query.terms query.text.toList = .ok terms) (infallible : visibility.Infallible)
    (valid : plan.validate = .ok ()) (covered : limit ≤ captured) (bench : Bench Usage τ) :
    Saves (statisticalFacets corpus.backend visibility query plan · limit)
      (corpus.snapshot terms query.facets captured) 1 bench := by
  have tabled : corpus.table query limit = _ := corpus.table_eq parsed limit
  obtain ⟨visible, last, sifts⟩ :=
    infallible.sifts (drawn plan.sampleSize plan.seed (corpus.hits terms)) bench.checks
  obtain ⟨signals, asked⟩ := run_candidates steady parsed tabled plan.batchSize bench
  obtain ⟨freshSignals, fresh⟩ := run_statisticalFacets_asked steady parsed valid asked sifts
  have known : (candidates corpus.backend query (corpus.snapshot terms query.facets captured)
      plan.batchSize limit).run bench =
        some (.ok (countFacets (labelsOf (corpus.hits terms)) query.facets limit,
          (corpus.hits terms).length), bench) := by
    rw [candidates_of_covered covered, corpus.table_snapshot query.facets covered]
    rfl
  obtain ⟨reusedSignals, reused⟩ := run_statisticalFacets_asked steady parsed valid known sifts
  refine ⟨_, _, _, fresh, reused, rfl, ?_, rfl⟩
  simp only [Usage.fetched]
  omega

/-- A snapshot taken from the corpus is as good as the corpus for as many labels as it holds, and
saves the calls. For more labels it changes nothing, not even the sequence of calls. -/
theorem snapshot_reuse (steady : corpus.failAfterPages = none)
    (parsed : Query.terms query.text.toList = .ok terms) (infallible : visibility.Infallible)
    (valid : plan.validate = .ok ()) (captured limit : Nat) :
    ∃ table, (∀ usage, (corpus.backend.aggregate query captured usage).1 = .ok table) ∧
      let snapshot : Snapshot := ⟨table, (corpus.selected terms).length, captured⟩
      (limit ≤ captured → ∀ bench,
        Saves (insecureFacets corpus.backend query · limit) snapshot 0 bench ∧
        Saves (statisticalFacets corpus.backend visibility query plan · limit) snapshot 1 bench) ∧
      (captured < limit → ∀ bench,
        (insecureFacets corpus.backend.recorded query (some snapshot) limit).run bench =
          (insecureFacets corpus.backend.recorded query none limit).run bench ∧
        (statisticalFacets corpus.backend.recorded visibility query plan (some snapshot) limit).run
            bench =
          (statisticalFacets corpus.backend.recorded visibility query plan none limit).run bench) := by
  refine ⟨_, fun _ => corpus.table_eq parsed captured, ?_⟩
  rw [← Corpus.length_hits]
  constructor
  · intro covered bench
    exact ⟨insecureFacets_saves parsed covered bench,
      statisticalFacets_saves steady parsed infallible valid covered bench⟩
  · intro small bench
    rw [insecureFacets_of_small small, statisticalFacets_of_small small]
    exact ⟨rfl, rfl⟩

end Corpus

theorem snapshot_reuse_pair :
    let corpus : Corpus := { documents := [⟨"a", .ofList [("kind", .string "x")], ["all"]⟩,
      ⟨"b", .ofList [("kind", .string "y")], ["root"]⟩] }
    let query : Query := ⟨"*", ["kind"]⟩
    let visibility := Visibility.firstChecks 1
    let plan : SamplePlan := ⟨1, 7, 1⟩
    ∃ table, (corpus.backend.aggregate query 1 {}).1 = .ok table ∧
      Saves (statisticalFacets corpus.backend visibility query plan · 1) ⟨table, 2, 1⟩ 1
        ⟨⟨{}, []⟩, 0⟩ ∧
      (statisticalFacets corpus.backend.recorded visibility query plan (some ⟨table, 2, 1⟩) 2).run
          ⟨⟨({}, []), []⟩, 0⟩ =
        (statisticalFacets corpus.backend.recorded visibility query plan none 2).run
          ⟨⟨({}, []), []⟩, 0⟩ := by
  intro corpus query visibility plan
  have steady : corpus.failAfterPages = none := rfl
  have parsed : Query.terms query.text.toList = .ok [] := by decide
  have infallible : visibility.Infallible := fun _ checks => ⟨decide (checks < 1), rfl⟩
  have valid : plan.validate = .ok () := rfl
  obtain ⟨table, taken, covering, -⟩ := snapshot_reuse steady parsed infallible valid 1 1
  obtain ⟨same, retaken, -, inert⟩ := snapshot_reuse steady parsed infallible valid 1 2
  obtain rfl : table = same := Except.ok.inj ((taken {}).symm.trans (retaken {}))
  exact ⟨table, taken {}, (covering (Nat.le_refl 1) _).2, (inert Nat.one_lt_two _).2⟩

end VisibleFacets
