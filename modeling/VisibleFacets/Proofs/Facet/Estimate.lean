import VisibleFacets.Proofs.Facet.Secure
import VisibleFacets.Proofs.Search.Excerpt

/-!
# Estimated counts

An estimated count asks for a table, draws a sample of the hits, and scales the table by the visible
share of the sample. `run_statisticalFacets_asked` gives the count from any table at hand, and
`statisticalFacets_rescales` says which sample is drawn, and what it costs.
-/

namespace VisibleFacets

variable {σ τ : Type}

/-- The hits that a seed draws from all of these. -/
def drawn (size seed : Nat) (hits : List Hit) : List Hit :=
  (Reservoir.filled seededDice size (.ofSeed seed) hits).slots

theorem length_drawn {size : Nat} (seed : Nat) {hits : List Hit} (enough : size ≤ hits.length) :
    (drawn size seed hits).length = size :=
  Reservoir.length_slots_filled _ _ enough

theorem drawn_of_length_le {size : Nat} (seed : Nat) {hits : List Hit} (few : hits.length ≤ size) :
    drawn size seed hits = hits := by
  rw [drawn, Reservoir.filled_of_le _ _ few]

theorem length_drawn_eq_min (size seed : Nat) (hits : List Hit) :
    (drawn size seed hits).length = min size hits.length := by
  rcases Nat.le_total hits.length size with few | enough
  · rw [drawn_of_length_le seed few, Nat.min_eq_right few]
  · rw [length_drawn seed enough, Nat.min_eq_left enough]

theorem drawn_subset (size seed : Nat) (hits : List Hit) : drawn size seed hits ⊆ hits :=
  fun _ member => Reservoir.mem_of_mem_slots_filled _ _ member

theorem sample_ofList [Memory] {size : Nat} (positive : 0 < size) (seed : Nat) {hits : List Hit}
    (room : hits.length ≤ Memory.room) :
    (sample seededDice Source.ofList hits.length size (.ofSeed seed)
      (hits.map (Except.ok (ε := Error)))).1 = .ok (drawn size seed hits) := by
  have gives : Source.Gives Source.ofList (hits.map (Except.ok (ε := Error))) hits [] :=
    List.append_nil (hits.map _) ▸ .ofList hits []
  rw [sample_of_gives seededDice positive (Nat.le_trans (Nat.min_le_right _ _) room) _ gives, drawn]

section Steps

variable {backend : Backend σ} {visibility : Visibility τ} {query : Query} {plan : SamplePlan}
  {bench middle after : Bench σ τ} {last : Observed σ} {visible : List Hit} {checks : τ}
  {total limit : Nat}

/-- Without a snapshot that covers the limit the backend is asked twice. -/
theorem run_candidates_uncovered {snapshot : Option Snapshot}
    (uncovered : Snapshot.covering? snapshot limit = none) (batchSize : Nat) :
    (candidates backend query snapshot batchSize limit).run bench =
      Counting.run (do
        let table ← Counting.ask (backend.aggregate query limit)
        let page ← Counting.ask (backend.fetchPage query batchSize 0)
        return (table, page.totalHits)) (bench.report [.event (.askingBackend query.text)]) := by
  rw [candidates, uncovered]
  rfl

theorem run_candidates_fresh {snapshot : Option Snapshot} {batchSize : Nat} {table : FacetTable}
    {page : Page} {next last : σ} (uncovered : Snapshot.covering? snapshot limit = none)
    (aggregated : backend.aggregate query limit bench.observed.state = (.ok table, next))
    (fetched : backend.fetchPage query batchSize 0 next = (.ok page, last)) :
    ∃ signals, (candidates backend query snapshot batchSize limit).run bench =
      some (.ok (table, page.totalHits), ⟨⟨last, signals⟩, bench.checks⟩) := by
  refine ⟨bench.observed.signals ++ [.event (.askingBackend query.text)], ?_⟩
  rw [run_candidates_uncovered uncovered,
    Counting.run_bind_ok (by rw [Counting.run_ask, Bench.report_state, aggregated]),
    Counting.run_bind_ok (by rw [Counting.run_ask, fetched]), Counting.run_pure]
  rfl

variable [Memory]

/-- The sample drawn from hits that are paged is the one drawn from a list of them. -/
theorem run_drawHits {batchSize size : Nat} {hits : List Hit} {failure : Option Error}
    (positive : 0 < batchSize) (sizePositive : 0 < size) (room : size ≤ Memory.room)
    (excerpt : Excerpt backend query batchSize total 0 bench.observed hits failure last)
    (seed : Nat) :
    (drawHits backend query batchSize total size seed).run bench =
      some (failure.elim (.ok (drawn size seed hits)) .error, { bench with observed := last }) := by
  obtain ⟨after, reads⟩ := (Pager.excerpt_iff_reads positive).mp excerpt
  have fits := Nat.le_trans (Nat.min_le_left size total) room
  rw [Counting.run, drawHits, sample_of_reads seededDice sizePositive fits (.ofSeed seed) reads]
  cases failure <;> rfl

theorem run_drawHits_noRoom (backend : Backend σ) (query : Query) (batchSize : Nat) {size : Nat}
    (noRoom : Memory.room < min size total) (seed : Nat) (bench : Bench σ τ) :
    (drawHits backend query batchSize total size seed).run bench =
      some (.error .noRoom, bench) := by
  rw [Counting.run, drawHits, sample_of_noRoom seededDice noRoom]
  rfl

/-- With the hits read, what remains are the checks. -/
theorem run_checkSample_excerpt {hits : List Hit} (positive : 0 < plan.batchSize)
    (sizePositive : 0 < plan.sampleSize) (fewer : plan.sampleSize < total)
    (room : plan.sampleSize ≤ Memory.room)
    (excerpt : Excerpt backend query plan.batchSize total 0
      (bench.report [.event (.sampling plan.sampleSize total)]).observed hits none last)
    (visibility : Visibility τ) :
    (checkSample backend visibility query plan total).run bench =
      Counting.run (do
        let inspection ← inspectHits visibility (drawn plan.sampleSize plan.seed hits)
        return ((drawn plan.sampleSize plan.seed hits).length, inspection.visible.length))
        ⟨last, bench.checks⟩ := by
  have draws := run_drawHits positive sizePositive room excerpt plan.seed
  rw [checkSample, if_pos fewer, Counting.run_bind_ok (Counting.run_emit _ _), inspectSample,
    Counting.bind_assoc, Counting.run_bind_ok draws, Counting.bind_assoc]
  rfl

theorem run_checkSample_drawn {hits : List Hit} (positive : 0 < plan.batchSize)
    (sizePositive : 0 < plan.sampleSize) (fewer : plan.sampleSize < total)
    (room : plan.sampleSize ≤ Memory.room)
    (excerpt : Excerpt backend query plan.batchSize total 0
      (bench.report [.event (.sampling plan.sampleSize total)]).observed hits none last)
    (sifts : visibility.Sifts bench.checks (drawn plan.sampleSize plan.seed hits) visible
      checks) :
    (checkSample backend visibility query plan total).run bench =
      some (.ok ((drawn plan.sampleSize plan.seed hits).length, visible.length),
        ⟨last, checks⟩) := by
  rw [run_checkSample_excerpt positive sizePositive fewer room excerpt,
    Counting.run_bind_ok (run_inspectHits last sifts), Counting.run_pure, List.length_reverse]

/-- No hit is fetched and nothing is checked. -/
theorem run_checkSample_noRoom (fewer : plan.sampleSize < total)
    (noRoom : Memory.room < plan.sampleSize) (backend : Backend σ) (visibility : Visibility τ)
    (query : Query) (bench : Bench σ τ) :
    (checkSample backend visibility query plan total).run bench =
      some (.error .noRoom, bench.report [.event (.sampling plan.sampleSize total)]) := by
  have none : Memory.room < min plan.sampleSize total := by omega
  rw [checkSample, if_pos fewer, Counting.run_bind_ok (Counting.run_emit _ _)]
  apply Counting.run_bind_error
  exact Counting.run_bind_error (run_drawHits_noRoom backend query _ none plan.seed _) _

theorem run_checkSample_whole {hits : List (Hit × Observed σ)} (positive : 0 < plan.batchSize)
    (whole : total ≤ plan.sampleSize)
    (transcript : Transcript backend query plan.batchSize 0
      (bench.report [.event (.checkingAll plan.sampleSize total)]).observed hits none last)
    (sifts : visibility.Sifts bench.checks (hits.map Prod.fst) visible checks) :
    (checkSample backend visibility query plan total).run bench =
      some (.ok (hits.length, visible.length), ⟨last, checks⟩) := by
  have read := run_readHits positive transcript sifts
  rw [checkSample, if_neg (Nat.not_lt.mpr whole), Counting.run_bind_ok (Counting.run_emit _ _),
    Counting.run_bind_ok read, Counting.run_pure, List.length_reverse]

/-- An estimate with this table, once the sample is checked: a failure is passed on. -/
def SamplePlan.conclude (plan : SamplePlan) (total : Nat) (table : FacetTable) :
    Except Error (Nat × Nat) × Bench σ τ → Except Error FacetTable × Bench σ τ
  | (.error error, after) => (.error error, after)
  | (.ok (sampled, accessible), after) =>
    let facets := table.mapValues (rescale plan.sampleSize accessible)
    (.ok facets, after.report (Estimation.signals
      ⟨.sampled, total, plan.sampleSize, sampled, accessible, facets.size⟩))

theorem run_statisticalFacets_checked {snapshot : Option Snapshot} {table : FacetTable}
    (valid : plan.validate = .ok ()) (enough : plan.sampleSize ≤ total)
    (asked : (candidates backend query snapshot plan.batchSize limit).run bench =
      some (.ok (table, total), middle)) :
    (statisticalFacets backend visibility query plan snapshot limit).run bench =
      ((checkSample backend visibility query plan total).run middle).map
        (plan.conclude total table) := by
  have strategy : Strategy.choose total plan.sampleSize = .sampled := by
    rw [Strategy.choose, if_neg (Nat.not_lt.mpr enough)]
  rw [statisticalFacets, valid, Counting.run_bind_ok (Counting.run_ofExcept _ _),
    Counting.run_bind_ok asked]
  simp only [strategy]
  rw [Counting.run_bind]
  cases (checkSample backend visibility query plan total).run middle with
  | none => rfl
  | some checked =>
    obtain ⟨error | ⟨sampled, accessible⟩, after⟩ := checked
    · rfl
    · rfl

theorem run_statisticalFacets_noRoom {snapshot : Option Snapshot} {table : FacetTable}
    (valid : plan.validate = .ok ()) (fewer : plan.sampleSize < total)
    (noRoom : Memory.room < plan.sampleSize)
    (asked : (candidates backend query snapshot plan.batchSize limit).run bench =
      some (.ok (table, total), middle)) (visibility : Visibility τ) :
    (statisticalFacets backend visibility query plan snapshot limit).run bench =
      some (.error .noRoom, middle.report [.event (.sampling plan.sampleSize total)]) := by
  rw [run_statisticalFacets_checked valid (Nat.le_of_lt fewer) asked,
    run_checkSample_noRoom fewer noRoom]
  rfl

theorem run_statisticalFacets_sampled {snapshot : Option Snapshot} {table : FacetTable}
    {sampled accessible : Nat} (valid : plan.validate = .ok ())
    (enough : plan.sampleSize ≤ total)
    (asked : (candidates backend query snapshot plan.batchSize limit).run bench =
      some (.ok (table, total), middle))
    (checked : (checkSample backend visibility query plan total).run middle =
      some (.ok (sampled, accessible), after)) :
    (statisticalFacets backend visibility query plan snapshot limit).run bench =
      some (.ok (table.mapValues (rescale plan.sampleSize accessible)),
        after.report (Estimation.signals ⟨.sampled, total, plan.sampleSize, sampled, accessible,
          (table.mapValues (rescale plan.sampleSize accessible)).size⟩)) := by
  rw [run_statisticalFacets_checked valid enough asked, checked]
  rfl

theorem run_statisticalFacets_exact {snapshot : Option Snapshot} {table facets : FacetTable}
    (valid : plan.validate = .ok ()) (few : total < plan.sampleSize)
    (asked : (candidates backend query snapshot plan.batchSize limit).run bench =
      some (.ok (table, total), middle))
    (counted : (secureFacets backend visibility query plan.batchSize limit).run
      (middle.report [.event (.countingExactly plan.sampleSize total)]) =
        some (.ok facets, after)) :
    ∃ signals, (statisticalFacets backend visibility query plan snapshot limit).run bench =
      some (.ok facets, after.report signals) := by
  have strategy : Strategy.choose total plan.sampleSize = .exact := by
    rw [Strategy.choose, if_pos few]
  rw [statisticalFacets, valid, Counting.run_bind_ok (Counting.run_ofExcept _ _),
    Counting.run_bind_ok asked]
  simp only [strategy]
  rw [Counting.run_bind_ok (Counting.run_emit _ _), Counting.run_bind_ok counted,
    Counting.run_bind_ok (Counting.run_emit _ _), Counting.run_pure]
  exact ⟨_, rfl⟩

end Steps

/-! ## Counts of a corpus -/

theorem SamplePlan.validate_eq_ok_iff (plan : SamplePlan) :
    plan.validate = .ok () ↔ 0 < plan.sampleSize ∧ 0 < plan.batchSize :=
  checkSizes_eq_ok_iff

section Corpus

variable [Memory] {corpus : Corpus} {visibility : Visibility τ} {query : Query} {terms : List Term}
  {visible : List Hit} {checks last : τ} {limit : Nat}

def SamplePlan.fetches (plan : SamplePlan) (totalHits : Nat) : Nat :=
  if plan.sampleSize < totalHits then totalHits ⌈/⌉ plan.batchSize
  else totalHits / plan.batchSize + 1

/-- The visible hits are counted if there are fewer hits than the sample asks for, and otherwise the
table is scaled by their share of it. -/
def SamplePlan.estimate (plan : SamplePlan) (facets : List String) (limit totalHits : Nat)
    (table : FacetTable) (visible : List Hit) : FacetTable :=
  if totalHits < plan.sampleSize then countFacets (labelsOf visible) facets limit
  else table.mapValues (rescale plan.sampleSize visible.length)

theorem run_insecureFacets {table : FacetTable} (tabled : corpus.table query limit = .ok table)
    (bench : Bench Usage τ) :
    (insecureFacets corpus.backend query none limit).run bench =
      some (.ok table, ⟨⟨{ bench.observed.state with
        aggregations := bench.observed.state.aggregations + 1 }, bench.observed.signals⟩,
          bench.checks⟩) := by
  rw [insecureFacets, Snapshot.covering?, Option.filter_none, ← tabled]
  rfl

theorem run_candidates (steady : corpus.failAfterPages = none)
    (parsed : Query.terms query.text.toList = .ok terms) {table : FacetTable}
    (tabled : corpus.table query limit = .ok table) (batchSize : Nat) (bench : Bench Usage τ) :
    ∃ signals, (candidates corpus.backend query none batchSize limit).run bench =
      some (.ok (table, (corpus.hits terms).length),
        ⟨⟨{ bench.observed.state.fetched 1 with
          aggregations := bench.observed.state.aggregations + 1 }, signals⟩, bench.checks⟩) := by
  have aggregated : corpus.backend.aggregate query limit bench.observed.state = (.ok table, _) :=
    Prod.ext tabled rfl
  exact run_candidates_fresh rfl aggregated (Corpus.fetchPage_eq steady parsed batchSize 0 _)

theorem run_checkSample (steady : corpus.failAfterPages = none)
    (parsed : Query.terms query.text.toList = .ok terms) (plan : SamplePlan)
    (positive : 0 < plan.batchSize) (sizePositive : 0 < plan.sampleSize)
    (enough : plan.sampleSize ≤ (corpus.hits terms).length) (bench : Bench Usage τ)
    (sifts : visibility.Sifts bench.checks (drawn plan.sampleSize plan.seed (corpus.hits terms))
      visible last) :
    ∃ signals, (checkSample corpus.backend visibility query plan (corpus.hits terms).length).run
        bench =
      some (.ok (plan.sampleSize, visible.length),
        ⟨⟨bench.observed.state.fetched (plan.fetches (corpus.hits terms).length), signals⟩,
          last⟩) := by
  have room : plan.sampleSize ≤ Memory.room := Nat.le_trans enough corpus.hits_fit
  rcases Nat.lt_or_eq_of_le enough with fewer | all
  · obtain ⟨hits, last, transcript, told⟩ := Corpus.transcript steady parsed positive
      (bench.report [.event (.sampling plan.sampleSize (corpus.hits terms).length)]).observed
    have order : hits.map Prod.fst = corpus.hits terms := told.order
    have length : (corpus.hits terms).length = hits.length := by rw [← order, List.length_map]
    rw [← order] at sifts
    rw [SamplePlan.fetches, if_pos fewer, ← Bench.report_state, ← told.fetches]
    rw [length] at fewer transcript ⊢
    have checked := run_checkSample_drawn positive sizePositive fewer room
      (transcript.excerpt_whole positive) sifts
    rw [length_drawn plan.seed (by rw [List.length_map]; omega)] at checked
    exact ⟨_, checked⟩
  · obtain ⟨hits, last, transcript, told⟩ := Corpus.transcript steady parsed positive
      (bench.report [.event (.checkingAll plan.sampleSize (corpus.hits terms).length)]).observed
    have order : hits.map Prod.fst = corpus.hits terms := told.order
    have length : (corpus.hits terms).length = hits.length := by rw [← order, List.length_map]
    rw [drawn_of_length_le _ (Nat.le_of_eq all.symm), ← order] at sifts
    rw [SamplePlan.fetches, if_neg (Nat.not_lt.mpr (Nat.le_of_eq all.symm)), ← Bench.report_state,
      ← told.ended]
    rw [length] at all transcript ⊢
    have checked := run_checkSample_whole positive (Nat.le_of_eq all.symm) transcript sifts
    rw [all]
    exact ⟨_, checked⟩

/-- With the table and the number of hits at hand, from wherever they come. -/
theorem run_statisticalFacets_asked (steady : corpus.failAfterPages = none)
    (parsed : Query.terms query.text.toList = .ok terms) {plan : SamplePlan}
    (valid : plan.validate = .ok ()) {snapshot : Option Snapshot} {table : FacetTable}
    {bench middle : Bench Usage τ}
    (asked : (candidates corpus.backend query snapshot plan.batchSize limit).run bench =
      some (.ok (table, (corpus.hits terms).length), middle))
    (sifts : visibility.Sifts middle.checks (drawn plan.sampleSize plan.seed (corpus.hits terms))
      visible last) :
    ∃ signals, (statisticalFacets corpus.backend visibility query plan snapshot limit).run bench =
      some (.ok (plan.estimate query.facets limit (corpus.hits terms).length table visible),
        ⟨⟨middle.observed.state.fetched (plan.fetches (corpus.hits terms).length), signals⟩,
          last⟩) := by
  obtain ⟨sizePositive, positive⟩ := plan.validate_eq_ok_iff.mp valid
  rw [SamplePlan.estimate]
  rcases Nat.lt_or_ge (corpus.hits terms).length plan.sampleSize with few | enough
  · -- A sample larger than the hits would hold them all, and they are what is checked.
    rw [drawn_of_length_le _ (Nat.le_of_lt few)] at sifts
    rw [if_pos few, SamplePlan.fetches, if_neg (Nat.not_lt.mpr (Nat.le_of_lt few))]
    obtain ⟨signals, counted⟩ := Corpus.run_secureFacets steady parsed positive
      (middle.report [.event (.countingExactly plan.sampleSize (corpus.hits terms).length)])
      sifts limit
    obtain ⟨signals, estimated⟩ := run_statisticalFacets_exact valid few asked counted
    exact ⟨_, estimated⟩
  · rw [if_neg (Nat.not_lt.mpr enough)]
    obtain ⟨signals, checked⟩ := run_checkSample steady parsed plan positive sizePositive enough
      middle sifts
    exact ⟨_, run_statisticalFacets_sampled valid enough asked checked⟩

theorem run_statisticalFacets (steady : corpus.failAfterPages = none)
    (parsed : Query.terms query.text.toList = .ok terms) (plan : SamplePlan)
    (positive : 0 < plan.batchSize) (sizePositive : 0 < plan.sampleSize)
    (enough : plan.sampleSize ≤ (corpus.hits terms).length) {table : FacetTable}
    (tabled : corpus.table query limit = .ok table) (observed : Observed Usage)
    (sifts : visibility.Sifts checks (drawn plan.sampleSize plan.seed (corpus.hits terms))
      visible last) :
    ∃ after, (statisticalFacets corpus.backend visibility query plan none limit).run
          ⟨observed, checks⟩ =
        some (.ok (table.mapValues (rescale plan.sampleSize visible.length)), after) ∧
      after.checks = last ∧
      after.observed.state.aggregations = observed.state.aggregations + 1 ∧
      after.observed.state.pageFetches = observed.state.pageFetches +
        (1 + plan.fetches (corpus.hits terms).length) := by
  have valid := plan.validate_eq_ok_iff.mpr ⟨sizePositive, positive⟩
  obtain ⟨signals, asked⟩ := run_candidates steady parsed tabled plan.batchSize ⟨observed, checks⟩
  obtain ⟨signals, estimated⟩ := run_statisticalFacets_asked steady parsed valid asked sifts
  rw [SamplePlan.estimate, if_neg (Nat.not_lt.mpr enough)] at estimated
  refine ⟨_, estimated, rfl, rfl, ?_⟩
  rw [← Nat.add_assoc]
  rfl

/-- An estimate is the corpus's own table scaled by the visible share of the sample that the seed
draws from a list of the matching documents, whatever the size of the pages. Exactly the sample is
checked, in the order of its slots, and the calls of the corpus are known. -/
theorem statisticalFacets_rescales (steady : corpus.failAfterPages = none)
    (parsed : Query.terms query.text.toList = .ok terms) (infallible : visibility.Infallible)
    {sampleSize : Nat} (sizePositive : 0 < sampleSize)
    (enough : sampleSize ≤ (corpus.selected terms).length) (seed limit : Nat) (checks : τ) :
    ∃ table sampled visible last,
      corpus.table query limit = .ok table ∧
      (sample seededDice Source.ofList (corpus.selected terms).length sampleSize (.ofSeed seed)
        ((corpus.selected terms).map fun document => Except.ok (ε := Error) document.toHit)).1 =
          .ok sampled ∧
      sampled.length = sampleSize ∧
      visibility.Sifts checks sampled visible last ∧
      ∀ batchSize, 0 < batchSize → ∀ observed : Observed Usage, ∃ after,
        (statisticalFacets corpus.backend visibility query ⟨sampleSize, seed, batchSize⟩ none
          limit).run ⟨observed, checks⟩ =
            some (.ok (table.mapValues (rescale sampleSize visible.length)), after) ∧
        after.checks = last ∧
        after.observed.state.aggregations = observed.state.aggregations + 1 ∧
        after.observed.state.pageFetches = observed.state.pageFetches +
          (if sampleSize < (corpus.selected terms).length
            then 1 + (corpus.selected terms).length ⌈/⌉ batchSize
            else 2 + (corpus.selected terms).length / batchSize) ∧
        ∃ recorded,
          (statisticalFacets corpus.backend visibility.recorded query
            ⟨sampleSize, seed, batchSize⟩ none limit).run ⟨observed, (checks, [])⟩ =
              some (.ok (table.mapValues (rescale sampleSize visible.length)), recorded) ∧
          recorded.checks = (last, sampled) := by
  rw [← Corpus.length_hits] at enough ⊢
  obtain ⟨visible, last, sifts⟩ :=
    infallible.sifts (drawn sampleSize seed (corpus.hits terms)) checks
  have tabled : ∃ table, corpus.table query limit = .ok table := by
    rw [Corpus.table, Corpus.matching_eq parsed]
    exact ⟨_, rfl⟩
  obtain ⟨table, tabled⟩ := tabled
  refine ⟨table, _, visible, last, tabled, ?_, length_drawn seed enough, sifts, ?_⟩
  · rw [← sample_ofList sizePositive seed corpus.hits_fit, Corpus.hits, List.map_map]
    rfl
  · intro batchSize positive observed
    obtain ⟨after, estimated, checked, aggregations, fetches⟩ := run_statisticalFacets steady
      parsed ⟨sampleSize, seed, batchSize⟩ positive sizePositive enough tabled observed sifts
    obtain ⟨recorded, same, asked, -⟩ := run_statisticalFacets steady parsed
      ⟨sampleSize, seed, batchSize⟩ positive sizePositive enough tabled observed (sifts.recorded [])
    refine ⟨after, estimated, checked, aggregations, ?_, recorded, same, asked⟩
    rw [fetches, SamplePlan.fetches]
    split
    · rfl
    · simp only
      omega

end Corpus

theorem statisticalFacets_rescales_three :
    let corpus : Corpus := { documents := [⟨"a", .ofList [("kind", .string "x")], ["all"]⟩,
      ⟨"b", .ofList [("kind", .string "y")], ["root"]⟩, ⟨"c", .empty, ["all"]⟩] }
    let visibility := Visibility.ofPredicate fun hit => "all" ∈ hit.readers
    ∃ table sampled visible last, corpus.table ⟨"*", ["kind"]⟩ 5 = .ok table ∧
      sampled.length = 2 ∧ visibility.Sifts 0 sampled visible last ∧
      ∃ after, (statisticalFacets corpus.backend visibility ⟨"*", ["kind"]⟩ ⟨2, 7, 2⟩ none 5).run
          ⟨⟨{}, []⟩, 0⟩ = some (.ok (table.mapValues (rescale 2 visible.length)), after) ∧
        after.observed.state = ⟨3, 1⟩ := by
  intro corpus visibility
  have parsed : Query.terms (Query.mk "*" ["kind"]).text.toList = .ok [] := by decide
  have infallible : visibility.Infallible := fun hit _ => ⟨decide ("all" ∈ hit.readers), rfl⟩
  have three : (corpus.selected []).length = 3 := by decide
  obtain ⟨table, sampled, visible, last, tabled, -, size, sifts, estimates⟩ :=
    statisticalFacets_rescales (rfl : corpus.failAfterPages = none) parsed infallible
      (by decide : 0 < 2) (three ▸ by decide) 7 5 0
  obtain ⟨after, estimated, -, aggregations, fetches, -⟩ := estimates 2 (by decide) ⟨{}, []⟩
  refine ⟨table, sampled, visible, last, tabled, size, sifts, after, estimated, ?_⟩
  rw [three] at fetches
  cases usage : after.observed.state with
  | mk pages asked =>
    rw [usage] at aggregations fetches
    exact congrArg₂ Usage.mk fetches aggregations

end VisibleFacets
