import VisibleFacets.Facet.Mode
import VisibleFacets.Proofs.Facet.Inspection
import VisibleFacets.Proofs.Search.Coupling

/-!
# Counts on coupled backends

On coupled backends a count keeps up with the same count, whatever its mode: `Mode.count_couples`.
-/

namespace VisibleFacets

variable {σ ρ τ α β : Type}

/-- The states of the checks are to be the same, and signals are left out of account. -/
def Coupling.bench (coupling : Coupling Error σ ρ) (τ : Type) :
    Coupling Error (Bench σ τ) (Bench ρ τ) where
  related first second :=
    first.checks = second.checks ∧ coupling.related first.observed.state second.observed.state
  beyond first := coupling.beyond first.observed.state
  stopped error second := coupling.stopped error second.observed.state

namespace Counting

/-- Where the first step ends the second ends too, and keeps up. -/
structure Couples (coupling : Coupling Error σ ρ) (first : Counting σ τ α)
    (second : Counting ρ τ α) : Prop where
  keepsUp {bench : Bench σ τ} {other : Bench ρ τ} {result : Except Error α × Bench σ τ}
    (related : (coupling.bench τ).related bench other) (ended : first.run bench = some result) :
    ∃ last, second.run other = some last ∧ (coupling.bench τ).KeepsUp .error result last
  beyond {bench : Bench σ τ} {result : Except Error α × Bench σ τ}
    (beyond : coupling.beyond bench.observed.state) (ended : first.run bench = some result) :
    coupling.beyond result.2.observed.state

variable {coupling : Coupling Error σ ρ}

/-- A step that leaves the backend alone. -/
theorem Couples.of_aside {first : Counting σ τ α} {second : Counting ρ τ α}
    (answer : τ → Except Error α × τ)
    (runs : ∀ bench, ∃ signals, first.run bench =
      some ((answer bench.checks).1, ⟨⟨bench.observed.state, signals⟩, (answer bench.checks).2⟩))
    (reruns : ∀ bench, ∃ signals, second.run bench =
      some ((answer bench.checks).1, ⟨⟨bench.observed.state, signals⟩, (answer bench.checks).2⟩)) :
    Couples coupling first second where
  keepsUp {bench other result} := by
    rintro ⟨same, related⟩ ended
    obtain ⟨signals, ran⟩ := runs bench
    obtain ⟨others, reran⟩ := reruns other
    obtain rfl := Option.some.inj (ended.symm.trans ran)
    rw [← same] at reran
    exact ⟨_, reran, .along ⟨rfl, related⟩⟩
  beyond {bench result} beyond ended := by
    obtain ⟨signals, ran⟩ := runs bench
    obtain rfl := Option.some.inj (ended.symm.trans ran)
    exact beyond

theorem Couples.pure (value : α) :
    Couples coupling (pure value : Counting σ τ α) (pure value : Counting ρ τ α) :=
  .of_aside (fun checks => (.ok value, checks)) (fun _ => ⟨_, rfl⟩) fun _ => ⟨_, rfl⟩

theorem Couples.ofExcept (outcome : Except Error α) :
    Couples coupling (ofExcept outcome : Counting σ τ α) (ofExcept outcome : Counting ρ τ α) :=
  .of_aside (fun checks => (outcome, checks)) (fun _ => ⟨_, rfl⟩) fun _ => ⟨_, rfl⟩

theorem Couples.emit (signals : List Signal) :
    Couples coupling (emit signals : Counting σ τ Unit) (emit signals : Counting ρ τ Unit) :=
  .of_aside (fun checks => (.ok (), checks)) (fun _ => ⟨_, rfl⟩) fun _ => ⟨_, rfl⟩

theorem Couples.inspectHits (visibility : Visibility τ) (hits : List Hit) :
    Couples coupling (inspectHits visibility hits : Counting σ τ Inspection)
      (inspectHits visibility hits : Counting ρ τ Inspection) :=
  .of_aside (inspectItems visibility (hits.map .ok)) (fun _ => ⟨_, rfl⟩) fun _ => ⟨_, rfl⟩

theorem Couples.ask {first : σ → Except Error α × σ} {second : ρ → Except Error α × ρ}
    (steps : coupling.Steps .error first second) :
    Couples coupling (ask first : Counting σ τ α) (ask second : Counting ρ τ α) where
  keepsUp {bench other result} := by
    rintro ⟨same, related⟩ ended
    rcases told : first bench.observed.state with ⟨answer, next⟩
    rw [run_ask, told] at ended
    obtain rfl := Option.some.inj ended
    refine ⟨_, run_ask _ _, ?_⟩
    rcases steps.along_or_short related told with ⟨follower, heard, related⟩ |
      ⟨error, follower, heard, beyond, stopped⟩
    · rw [heard]
      exact .along ⟨same, related⟩
    · rw [heard]
      exact .short beyond stopped
  beyond {bench result} beyond ended := by
    rw [run_ask] at ended
    obtain rfl := Option.some.inj ended
    exact steps.beyond beyond

theorem Couples.bind {first : Counting σ τ α} {second : Counting ρ τ α}
    {rest : α → Counting σ τ β} {others : α → Counting ρ τ β}
    (begins : Couples coupling first second)
    (goesOn : ∀ value, Couples coupling (rest value) (others value)) :
    Couples coupling (first >>= rest) (second >>= others) where
  keepsUp {bench other result} related ended := by
    rw [run_bind] at ended
    rcases begun : first.run bench with _ | ⟨answer, middle⟩
    case none => rw [begun] at ended; cases ended
    case some =>
      rw [begun] at ended
      obtain ⟨⟨heard, follower⟩, reran, kept⟩ := begins.keepsUp related begun
      cases kept with
      | along related =>
        cases answer with
        | error error =>
          cases ended
          exact ⟨_, run_bind_error reran _, .along related⟩
        | ok value =>
          rw [run_bind_ok reran]
          exact (goesOn value).keepsUp related ended
      | short beyond stopped =>
        refine ⟨_, run_bind_error reran _, ?_⟩
        cases answer with
        | error error =>
          cases ended
          exact .short beyond stopped
        | ok value => exact .short ((goesOn value).beyond beyond ended) stopped
  beyond {bench result} beyond ended := by
    rw [run_bind] at ended
    rcases begun : first.run bench with _ | ⟨_ | value, middle⟩
    case none => rw [begun] at ended; cases ended
    case some.error =>
      rw [begun] at ended
      cases ended
      exact begins.beyond beyond begun
    case some.ok =>
      rw [begun] at ended
      exact (goesOn value).beyond (begins.beyond beyond begun) ended

end Counting

/-! ## The steps of a count -/

section Steps

open Counting

variable {coupling : Coupling Error σ ρ} {first : Backend σ} {second : Backend ρ}
  (couples : Backend.Couples coupling first second) (visibility : Visibility τ) (query : Query)
include couples

theorem readHits_couples (batchSize : Nat) :
    Couples coupling (readHits first visibility query batchSize)
      (readHits second visibility query batchSize) := by
  have sources := Pager.source_steps couples query
  constructor
  · rintro bench other result ⟨same, related⟩ ended
    obtain ⟨outcome, inspection, checks, pager, last, drained, rfl⟩ := readHits_eq_some ended
    have start : (coupling.observed.beside Pager).related (.start batchSize, bench.observed)
        (.start batchSize, other.observed) := ⟨rfl, related⟩
    obtain ⟨⟨_, ⟨_, _⟩, _, final⟩, redrained, kept⟩ :=
      (Source.drain_alike sources drained).keepsUp start
    rw [same] at redrained
    refine ⟨_, run_readHits_of redrained, ?_⟩
    cases kept with
    | along related =>
      obtain ⟨checked, -, related⟩ := related
      cases checked
      exact .along ⟨rfl, related⟩
    | short beyond stopped => exact .short beyond stopped
  · intro bench result beyond ended
    obtain ⟨outcome, inspection, checks, pager, last, drained, rfl⟩ := readHits_eq_some ended
    exact (Source.drain_alike sources drained).beyond beyond

theorem drawHits_couples [Memory] (batchSize population size seed : Nat) :
    Couples coupling (drawHits first query batchSize population size seed : Counting σ τ (List Hit))
      (drawHits second query batchSize population size seed) := by
  have draws := sample_steps (Pager.source_steps couples query) seededDice population size
  constructor
  · rintro bench other result ⟨same, related⟩ ended
    rcases told : sample seededDice (Pager.source first query) population size
      (Generator.ofSeed seed) (.start batchSize, bench.observed) with ⟨outcome, dice, pager, last⟩
    obtain rfl := Option.some.inj ((run_drawHits_of told).symm.trans ended)
    have start : ((coupling.observed.beside Pager).beside Generator).related
        (.ofSeed seed, .start batchSize, bench.observed)
        (.ofSeed seed, .start batchSize, other.observed) := ⟨rfl, rfl, related⟩
    rcases draws.along_or_short start told with
      ⟨⟨_, _, follower⟩, heard, -, -, related⟩ | ⟨error, ⟨_, _, follower⟩, heard, beyond, stopped⟩
    · exact ⟨_, run_drawHits_of heard, .along ⟨same, related⟩⟩
    · exact ⟨_, run_drawHits_of heard, .short beyond stopped⟩
  · intro bench result beyond ended
    rcases told : sample seededDice (Pager.source first query) population size
      (Generator.ofSeed seed) (.start batchSize, bench.observed) with ⟨outcome, dice, pager, last⟩
    obtain rfl := Option.some.inj ((run_drawHits_of told).symm.trans ended)
    have start : ((coupling.observed.beside Pager).beside Generator).beyond
        (.ofSeed seed, .start batchSize, bench.observed) := beyond
    exact draws.beyond_next start told

theorem secureFacets_couples (batchSize limit : Nat) :
    Couples coupling (secureFacets first visibility query batchSize limit)
      (secureFacets second visibility query batchSize limit) := by
  rw [secureFacets, secureFacets]
  split
  · exact .ofExcept _
  · refine .bind (readHits_couples couples visibility query batchSize) fun inspection => ?_
    exact .bind (.emit _) fun _ => .pure _

theorem insecureFacets_couples (snapshot : Option Snapshot) (limit : Nat) :
    Couples coupling (insecureFacets first query snapshot limit : Counting σ τ FacetTable)
      (insecureFacets second query snapshot limit) := by
  rw [insecureFacets, insecureFacets]
  split
  · exact .pure _
  · exact .ask (couples.aggregate query limit)

theorem candidates_couples (snapshot : Option Snapshot) (batchSize limit : Nat) :
    Couples coupling
      (candidates first query snapshot batchSize limit : Counting σ τ (FacetTable × Nat))
      (candidates second query snapshot batchSize limit) := by
  rw [candidates, candidates]
  split
  · exact .pure _
  · refine .bind (.emit _) fun _ => ?_
    refine .bind (insecureFacets_couples couples query none limit) fun table => ?_
    exact .bind (.ask (couples.fetchPage query batchSize 0)) fun page => .pure _

theorem checkSample_couples [Memory] (plan : SamplePlan) (totalHits : Nat) :
    Couples coupling (checkSample first visibility query plan totalHits)
      (checkSample second visibility query plan totalHits) := by
  rw [checkSample, checkSample]
  split
  · refine .bind (.emit _) fun _ => .bind ?_ fun _ => .pure _
    rw [inspectSample, inspectSample]
    refine .bind (drawHits_couples couples query _ _ _ _) fun hits => ?_
    exact .bind (.inspectHits visibility hits) fun inspection => .pure _
  · refine .bind (.emit _) fun _ => ?_
    exact .bind (readHits_couples couples visibility query plan.batchSize) fun _ => .pure _

theorem statisticalFacets_couples [Memory] (plan : SamplePlan) (snapshot : Option Snapshot)
    (limit : Nat) :
    Couples coupling (statisticalFacets first visibility query plan snapshot limit)
      (statisticalFacets second visibility query plan snapshot limit) := by
  rw [statisticalFacets, statisticalFacets]
  refine .bind (.ofExcept _) fun _ => ?_
  refine .bind (candidates_couples couples query snapshot plan.batchSize limit) fun counted => ?_
  obtain ⟨table, totalHits⟩ := counted
  dsimp only
  split
  · refine .bind (.emit _) fun _ => ?_
    refine .bind (secureFacets_couples couples visibility query plan.batchSize limit) fun _ => ?_
    exact .bind (.emit _) fun _ => .pure _
  · refine .bind (checkSample_couples couples visibility query plan totalHits) fun sizes => ?_
    exact .bind (.emit _) fun _ => .pure _

end Steps

/-! ## Whole counts -/

variable [Memory]

/-- The count of a mode, once the plan is found valid. -/
def Mode.count (mode : Mode) (backend : Backend σ) (visibility : Visibility τ) (query : Query)
    (plan : SamplePlan) (snapshot : Option Snapshot) (limit : Nat) : Counting σ τ FacetTable :=
  match mode with
  | .secure => secureFacets backend visibility query plan.batchSize limit
  | .statistical => statisticalFacets backend visibility query plan snapshot limit
  | .insecure => insecureFacets backend query snapshot limit

theorem facetsIn_eq (mode : Mode) (backend : Backend σ) (visibility : Visibility τ) (query : Query)
    (plan : SamplePlan) (snapshot : Option Snapshot) :
    facetsIn mode backend visibility query plan snapshot =
      plan.validate.map fun _ => mode.count backend visibility query plan snapshot := rfl

theorem Mode.count_couples {coupling : Coupling Error σ ρ} {first : Backend σ}
    {second : Backend ρ} (couples : Backend.Couples coupling first second) (mode : Mode)
    (visibility : Visibility τ) (query : Query) (plan : SamplePlan) (snapshot : Option Snapshot)
    (limit : Nat) :
    Counting.Couples coupling (mode.count first visibility query plan snapshot limit)
      (mode.count second visibility query plan snapshot limit) := by
  cases mode with
  | secure => exact secureFacets_couples couples visibility query plan.batchSize limit
  | statistical => exact statisticalFacets_couples couples visibility query plan snapshot limit
  | insecure => exact insecureFacets_couples couples query snapshot limit

end VisibleFacets
