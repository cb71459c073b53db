import VisibleFacets.Proofs.Facet.Estimate
import VisibleFacets.Proofs.Facet.Keeping

/-!
# An estimate and its report

An estimate is a survey, which comes to a table and a record of itself, and a report of the record:
`statisticalFacets_eq`. What is signalled on the way is not part of the report.
-/

namespace VisibleFacets

variable {σ τ : Type}

section Appraisal

variable [Memory] (backend : Backend σ) (visibility : Visibility τ) (query : Query)
  (plan : SamplePlan) (snapshot : Option Snapshot) (limit : Nat)

/-- The estimate and its record, once the table and the number of hits are known. -/
def appraise (counted : FacetTable × Nat) : Counting σ τ (FacetTable × Estimation) :=
  match Strategy.choose counted.2 plan.sampleSize with
  | .exact => do
    Counting.emit [.event (.countingExactly plan.sampleSize counted.2)]
    let facets ← secureFacets backend visibility query plan.batchSize limit
    return (facets, ⟨.exact, counted.2, plan.sampleSize, 0, 0, facets.size⟩)
  | .sampled => do
    let (sampled, accessible) ← checkSample backend visibility query plan counted.2
    let facets := counted.1.mapValues (rescale plan.sampleSize accessible)
    return (facets, ⟨.sampled, counted.2, plan.sampleSize, sampled, accessible, facets.size⟩)

/-- All of an estimate but its report. -/
def survey : Counting σ τ (FacetTable × Estimation) := do
  Counting.ofExcept plan.validate
  let counted ← candidates backend query snapshot plan.batchSize limit
  appraise backend visibility query plan limit counted

theorem statisticalFacets_eq :
    statisticalFacets backend visibility query plan snapshot limit = do
      let surveyed ← survey backend visibility query plan snapshot limit
      Counting.emit surveyed.2.signals
      return surveyed.1 := by
  rw [statisticalFacets, survey, Counting.bind_assoc]
  congr 1
  funext _
  rw [Counting.bind_assoc]
  congr 1
  funext counted
  obtain ⟨table, total⟩ := counted
  rw [appraise]
  dsimp only
  generalize Strategy.choose total plan.sampleSize = strategy
  cases strategy with
  | exact =>
    simp only [Counting.bind_assoc]
    rfl
  | sampled =>
    simp only [Counting.bind_assoc]
    rfl

variable {backend visibility query plan snapshot limit} {kept : Observed σ → Prop}

theorem appraise_keeps (keeps : backend.Keeps kept) (counted : FacetTable × Nat) :
    Counting.Keeps kept (appraise backend visibility query plan limit counted) := by
  rw [appraise]
  split
  · refine .bind (.emit keeps rfl) fun _ => ?_
    exact .bind (secureFacets_keeps keeps visibility query plan.batchSize limit) fun _ => .pure _
  · exact .bind (checkSample_keeps keeps visibility query plan counted.2) fun _ => .pure _

theorem appraise_ok {counted : FacetTable × Nat} {bench after : Bench σ τ} {table : FacetTable}
    {estimation : Estimation}
    (appraised : (appraise backend visibility query plan limit counted).run bench =
      some (.ok (table, estimation), after)) :
    estimation.totalHits = counted.2 ∧ estimation.sampleSize = plan.sampleSize ∧
      estimation.facetCount = table.size ∧
      ((counted.2 < plan.sampleSize ∧ estimation.strategy = .exact ∧ estimation.sampled = 0 ∧
          estimation.accessible = 0 ∧
          ∃ asking, (secureFacets backend visibility query plan.batchSize limit).run asking =
            some (.ok table, after)) ∨
        plan.sampleSize ≤ counted.2 ∧ estimation.strategy = .sampled ∧
          table = counted.1.mapValues (rescale plan.sampleSize estimation.accessible) ∧
          (checkSample backend visibility query plan counted.2).run bench =
            some (.ok (estimation.sampled, estimation.accessible), after)) := by
  rw [appraise, Strategy.choose] at appraised
  by_cases few : counted.2 < plan.sampleSize
  · rw [if_pos few] at appraised
    obtain ⟨_, told, emitted, appraised⟩ := Counting.run_bind_eq_ok appraised
    obtain ⟨facets, last, secure, appraised⟩ := Counting.run_bind_eq_ok appraised
    cases appraised
    exact ⟨rfl, rfl, rfl, .inl ⟨few, rfl, rfl, rfl, told, secure⟩⟩
  · rw [if_neg few] at appraised
    obtain ⟨⟨sampled, accessible⟩, last, checked, appraised⟩ := Counting.run_bind_eq_ok appraised
    cases appraised
    exact ⟨rfl, rfl, rfl, .inr ⟨Nat.not_lt.mp few, rfl, rfl, checked⟩⟩

omit [Memory] in
theorem candidates_uncovered {batchSize : Nat} {bench after : Bench σ τ}
    {outcome : Except Error (FacetTable × Nat)}
    (uncovered : Snapshot.covering? snapshot limit = none)
    (asked : (candidates backend query snapshot batchSize limit).run bench =
      some (outcome, after)) :
    (∃ error next, backend.aggregate query limit bench.observed.state = (.error error, next) ∧
      outcome = .error error ∧
      after = ⟨⟨next, (bench.observed.log (.askingBackend query.text)).signals⟩, bench.checks⟩) ∨
    ∃ table next answer last,
      backend.aggregate query limit bench.observed.state = (.ok table, next) ∧
      backend.fetchPage query batchSize 0 next = (answer, last) ∧
      outcome = answer.map (fun page => (table, page.totalHits)) ∧
      after = ⟨⟨last, (bench.observed.log (.askingBackend query.text)).signals⟩, bench.checks⟩ := by
  rw [run_candidates_uncovered uncovered] at asked
  rcases Counting.run_bind_eq_some asked with ⟨error, rfl, failed⟩ | ⟨table, _, given, asked⟩
  · obtain ⟨refused, rfl⟩ := Prod.mk.inj (Option.some.inj failed)
    exact .inl ⟨error, _, Prod.ext refused rfl, rfl, rfl⟩
  · obtain ⟨tabled, rfl⟩ := Prod.mk.inj (Option.some.inj given)
    rcases Counting.run_bind_eq_some asked with ⟨error, rfl, failed⟩ | ⟨page, _, fetched, asked⟩
    · obtain ⟨refused, rfl⟩ := Prod.mk.inj (Option.some.inj failed)
      exact .inr ⟨table, _, _, _, Prod.ext tabled rfl, Prod.ext refused rfl, rfl, rfl⟩
    · obtain ⟨paged, rfl⟩ := Prod.mk.inj (Option.some.inj fetched)
      cases asked
      exact .inr ⟨table, _, _, _, Prod.ext tabled rfl, Prod.ext paged rfl, rfl, rfl⟩

theorem survey_ok {bench after : Bench σ τ} {table : FacetTable} {estimation : Estimation}
    (surveyed : (survey backend visibility query plan snapshot limit).run bench =
      some (.ok (table, estimation), after)) :
    plan.validate = .ok () ∧ ∃ counted middle,
      (candidates backend query snapshot plan.batchSize limit).run bench =
        some (.ok counted, middle) ∧
      (appraise backend visibility query plan limit counted).run middle =
        some (.ok (table, estimation), after) := by
  rw [survey] at surveyed
  obtain ⟨_, start, validated, surveyed⟩ := Counting.run_bind_eq_ok surveyed
  obtain ⟨valid, rfl⟩ := Prod.mk.inj (Option.some.inj validated)
  exact ⟨valid, Counting.run_bind_eq_ok surveyed⟩

/-- An estimate that ends has failed before its report, or has made it. -/
theorem statisticalFacets_ended {bench after : Bench σ τ} {outcome : Except Error FacetTable}
    (ended : (statisticalFacets backend visibility query plan snapshot limit).run bench =
      some (outcome, after)) :
    (∃ error, outcome = .error error ∧
      (survey backend visibility query plan snapshot limit).run bench =
        some (.error error, after)) ∨
    ∃ table estimation last, outcome = .ok table ∧
      (survey backend visibility query plan snapshot limit).run bench =
        some (.ok (table, estimation), last) ∧
      after = last.report estimation.signals := by
  rw [statisticalFacets_eq] at ended
  rcases Counting.run_bind_eq_some ended with failed | ⟨⟨table, estimation⟩, last, surveyed, ended⟩
  · exact .inl failed
  · cases ended
    exact .inr ⟨table, estimation, last, rfl, surveyed, rfl⟩

end Appraisal

end VisibleFacets
