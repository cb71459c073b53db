import VisibleFacets.Proofs.Facet.Coupling
import VisibleFacets.Proofs.Facet.Estimate

/-!
# Counts come to an end

Reading the hits is the only step of a count that may go on for ever. On a corpus whose fetches do
not fail it ends, so all counts do: `Mode.count_ends`.
-/

namespace VisibleFacets

variable {σ τ α β : Type}

namespace Counting

def Ends (step : Counting σ τ α) : Prop :=
  ∀ bench, ∃ result, step.run bench = some result

theorem Ends.bind {first : Counting σ τ α} {rest : α → Counting σ τ β} (begins : Ends first)
    (goesOn : ∀ value, Ends (rest value)) : Ends (first >>= rest) := by
  intro bench
  obtain ⟨⟨_ | value, middle⟩, begun⟩ := begins bench
  case error => exact ⟨_, run_bind_error begun _⟩
  case ok =>
    obtain ⟨result, ended⟩ := goesOn value middle
    exact ⟨result, (run_bind_ok begun _).trans ended⟩

theorem Ends.pure (value : α) : Ends (pure value : Counting σ τ α) := fun _ => ⟨_, rfl⟩

theorem Ends.emit (signals : List Signal) : Ends (emit signals : Counting σ τ Unit) :=
  fun _ => ⟨_, rfl⟩

theorem Ends.ask (call : σ → Except Error α × σ) : Ends (ask call : Counting σ τ α) :=
  fun _ => ⟨_, rfl⟩

theorem Ends.ofExcept (outcome : Except Error α) : Ends (ofExcept outcome : Counting σ τ α) :=
  fun _ => ⟨_, rfl⟩

end Counting

section Corpus

open Counting

variable [Memory] {corpus : Corpus} (steady : corpus.failAfterPages = none)
  (visibility : Visibility τ) (query : Query)
include steady

theorem Corpus.transcript_exists {batchSize : Nat} (positive : 0 < batchSize)
    (observed : Observed Usage) :
    ∃ hits failure last, Transcript corpus.backend query batchSize 0 observed hits failure last := by
  rcases parsed : Query.terms query.text.toList with error | terms
  · have failed : corpus.backend.fetchPage query batchSize 0 observed.state =
        (.error error, observed.state.fetched 1) := by
      simp [backend, page, exhausted, steady, matching, parsed, Except.map, Usage.fetched]
    exact ⟨[], some error, _, .failed failed⟩
  · obtain ⟨hits, last, transcript, -⟩ := transcript steady parsed positive observed
    exact ⟨hits, none, last, transcript⟩

theorem readHits_ends {batchSize : Nat} (positive : 0 < batchSize) :
    Ends (readHits corpus.backend visibility query batchSize) := by
  intro bench
  obtain ⟨hits, failure, last, transcript⟩ :=
    corpus.transcript_exists steady query positive bench.observed
  obtain ⟨pager, after, gives, told⟩ := Pager.gives_transcript positive transcript
  have without : ∀ hit : Hit, failure.map Except.error ≠ some (.ok hit) := by
    cases failure <;> simp
  obtain ⟨⟨_, ⟨_, _⟩, _, _⟩, drained⟩ : ∃ drained, (Pager.source corpus.backend query).drain
      (inspect visibility) ({}, bench.checks) (.start batchSize, bench.observed) = some drained :=
    Source.drain_ends gives told without _
  exact ⟨_, run_readHits_of drained⟩

theorem secureFacets_ends (batchSize limit : Nat) :
    Ends (secureFacets corpus.backend visibility query batchSize limit) := by
  rw [secureFacets]
  split
  case isTrue => exact .ofExcept _
  case isFalse nonzero =>
    refine .bind (readHits_ends steady visibility query (Nat.pos_of_ne_zero nonzero)) fun _ => ?_
    exact .bind (.emit _) fun _ => .pure _

omit steady in
theorem insecureFacets_ends (snapshot : Option Snapshot) (limit : Nat) :
    Ends (insecureFacets corpus.backend query snapshot limit : Counting Usage τ FacetTable) := by
  rw [insecureFacets]
  split
  · exact .pure _
  · exact .ask _

omit steady in
theorem candidates_ends (snapshot : Option Snapshot) (batchSize limit : Nat) :
    Ends (candidates corpus.backend query snapshot batchSize limit :
      Counting Usage τ (FacetTable × Nat)) := by
  rw [candidates]
  split
  · exact .pure _
  · refine .bind (.emit _) fun _ => .bind (insecureFacets_ends query none limit) fun _ => ?_
    exact .bind (.ask _) fun _ => .pure _

theorem checkSample_ends {plan : SamplePlan} (positive : 0 < plan.batchSize) (totalHits : Nat) :
    Ends (checkSample corpus.backend visibility query plan totalHits) := by
  rw [checkSample]
  split
  · refine .bind (.emit _) fun _ => .bind ?_ fun _ => .pure _
    have draws : Ends (drawHits corpus.backend query plan.batchSize totalHits plan.sampleSize
        plan.seed : Counting Usage τ (List Hit)) := fun _ => ⟨_, rfl⟩
    have inspects (hits : List Hit) :
        Ends (inspectHits visibility hits : Counting Usage τ Inspection) := fun _ => ⟨_, rfl⟩
    exact .bind draws fun hits => .bind (inspects hits) fun _ => .pure _
  · refine .bind (.emit _) fun _ => ?_
    exact .bind (readHits_ends steady visibility query positive) fun _ => .pure _

theorem statisticalFacets_ends (plan : SamplePlan) (snapshot : Option Snapshot) (limit : Nat) :
    Ends (statisticalFacets corpus.backend visibility query plan snapshot limit) := by
  rcases validated : plan.validate with error | _
  · intro bench
    refine ⟨(.error error, bench), ?_⟩
    rw [statisticalFacets, validated, Counting.run_bind_error (run_ofExcept _ _)]
  · obtain ⟨-, positive⟩ := plan.validate_eq_ok_iff.mp validated
    rw [statisticalFacets]
    refine .bind (.ofExcept _) fun _ => ?_
    refine .bind (candidates_ends query snapshot plan.batchSize limit) ?_
    rintro ⟨table, totalHits⟩
    dsimp only
    split
    · refine .bind (.emit _) fun _ => ?_
      refine .bind (secureFacets_ends steady visibility query plan.batchSize limit) fun _ => ?_
      exact .bind (.emit _) fun _ => .pure _
    · refine .bind (checkSample_ends steady visibility query positive totalHits) fun _ => ?_
      exact .bind (.emit _) fun _ => .pure _

/-- Whatever the mode and the plan, and whatever the checks do. -/
theorem Mode.count_ends (mode : Mode) (plan : SamplePlan) (snapshot : Option Snapshot)
    (limit : Nat) : Ends (mode.count corpus.backend visibility query plan snapshot limit) := by
  cases mode with
  | secure => exact secureFacets_ends steady visibility query plan.batchSize limit
  | statistical => exact statisticalFacets_ends steady visibility query plan snapshot limit
  | insecure => exact insecureFacets_ends query snapshot limit

end Corpus

end VisibleFacets
