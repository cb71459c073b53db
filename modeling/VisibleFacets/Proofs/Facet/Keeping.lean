import VisibleFacets.Proofs.Facet.Coupling

/-!
# What the reading of hits keeps

Until its outcome is known a count only calls its backend and logs single events. So what fetched
pages and such events keep is kept by all that it does with the hits: `Counting.Keeps`,
`secureFacets_keeps`, `checkSample_keeps`.
-/

namespace VisibleFacets

variable {σ τ α β : Type}

/-- Whether the event tells of an estimation that is over. -/
def Event.concludes : Event → Bool
  | .estimated _ => true
  | .shortSample .. => true
  | _ => false

def Observed.log (observed : Observed σ) (event : Event) : Observed σ :=
  { observed with signals := observed.signals ++ [.event event] }

/-- A property that pages and failed fetches of the backend keep, and events on the way. -/
structure Backend.Keeps (backend : Backend σ) (kept : Observed σ → Prop) : Prop where
  served {observed : Observed σ} {query : Query} {batchSize offset : Nat} {page : Page} {next : σ}
    (held : kept observed)
    (fetched : backend.fetchPage query batchSize offset observed.state = (.ok page, next)) :
    kept (observed.receive page batchSize offset next)
  failed {observed : Observed σ} {query : Query} {batchSize offset : Nat} {error : Error} {next : σ}
    (held : kept observed)
    (fetched : backend.fetchPage query batchSize offset observed.state = (.error error, next)) :
    kept { observed with state := next }
  logged {observed : Observed σ} {event : Event} (held : kept observed)
    (passing : event.concludes = false) : kept (observed.log event)

theorem Pager.next_keeps {backend : Backend σ} {kept : Observed σ → Prop}
    (keeps : backend.Keeps kept) (query : Query) (pager : Pager) {observed : Observed σ}
    (held : kept observed) : kept (pager.next backend query observed).2.2 := by
  rw [next]
  split
  case isFalse => exact held
  case isTrue =>
    rcases fetched : backend.fetchPage query pager.batchSize pager.offset observed.state with
      ⟨_ | page, next⟩
    case error => exact keeps.failed held fetched
    case ok => exact keeps.served held fetched

theorem Pager.source_keeps {backend : Backend σ} {kept : Observed σ → Prop}
    (keeps : backend.Keeps kept) (query : Query) {state : Pager × Observed σ}
    (held : (kept ∘ Prod.snd) state) :
    (kept ∘ Prod.snd) ((source backend query).next state).2 :=
  next_keeps keeps query state.1 held

namespace Counting

def Keeps (kept : Observed σ → Prop) (step : Counting σ τ α) : Prop :=
  ∀ (bench : Bench σ τ) (result : Except Error α × Bench σ τ),
    step.run bench = some result → kept bench.observed → kept result.2.observed

variable {kept : Observed σ → Prop}

theorem Keeps.of_aside {step : Counting σ τ α}
    (runs : ∀ bench, ∃ answer checks, step.run bench = some (answer, ⟨bench.observed, checks⟩)) :
    Keeps kept step := by
  intro bench result ended held
  obtain ⟨answer, checks, ran⟩ := runs bench
  obtain rfl := Option.some.inj (ended.symm.trans ran)
  exact held

theorem Keeps.pure (value : α) : Keeps kept (pure value : Counting σ τ α) :=
  .of_aside fun _ => ⟨_, _, rfl⟩

theorem Keeps.ofExcept (outcome : Except Error α) :
    Keeps kept (ofExcept outcome : Counting σ τ α) :=
  .of_aside fun _ => ⟨_, _, rfl⟩

theorem Keeps.inspectHits (visibility : Visibility τ) (hits : List Hit) :
    Keeps kept (inspectHits visibility hits : Counting σ τ Inspection) :=
  .of_aside fun _ => ⟨_, _, rfl⟩

theorem Keeps.emit {backend : Backend σ} (keeps : backend.Keeps kept) {event : Event}
    (passing : event.concludes = false) :
    Keeps kept (emit [.event event] : Counting σ τ Unit) := by
  intro bench result ended held
  rw [run_emit] at ended
  obtain rfl := Option.some.inj ended
  exact keeps.logged held passing

theorem Keeps.bind {first : Counting σ τ α} {rest : α → Counting σ τ β} (begins : Keeps kept first)
    (goesOn : ∀ value, Keeps kept (rest value)) : Keeps kept (first >>= rest) := by
  rintro bench ⟨outcome, after⟩ ended held
  rcases run_bind_eq_some ended with ⟨error, rfl, failed⟩ | ⟨value, middle, begun, ended⟩
  · exact begins _ _ failed held
  · exact goesOn value _ _ ended (begins _ _ begun held)

end Counting

/-! ## The steps of a count -/

section Steps

open Counting

variable {backend : Backend σ} {kept : Observed σ → Prop} (keeps : backend.Keeps kept)
  (visibility : Visibility τ) (query : Query)
include keeps

theorem readHits_keeps (batchSize : Nat) :
    Keeps kept (readHits backend visibility query batchSize) := by
  intro bench result ended held
  obtain ⟨outcome, inspection, checks, pager, last, drained, rfl⟩ := readHits_eq_some ended
  have start : (kept ∘ Prod.snd) (Pager.start batchSize, bench.observed) := held
  exact Source.drain_keeps (Pager.source_keeps keeps query) drained start

theorem drawHits_keeps [Memory] (batchSize population size seed : Nat) :
    Keeps kept
      (drawHits backend query batchSize population size seed : Counting σ τ (List Hit)) := by
  intro bench result ended held
  rcases sampled : sample seededDice (Pager.source backend query) population size
    (Generator.ofSeed seed) (.start batchSize, bench.observed) with ⟨outcome, dice, pager, last⟩
  obtain rfl := Option.some.inj ((run_drawHits_of sampled).symm.trans ended)
  have start : (kept ∘ Prod.snd) (Pager.start batchSize, bench.observed) := held
  have drew := sample_keeps (Pager.source_keeps keeps query) seededDice population size
    (.ofSeed seed) start
  rwa [sampled] at drew

theorem secureFacets_keeps (batchSize limit : Nat) :
    Keeps kept (secureFacets backend visibility query batchSize limit) := by
  rw [secureFacets]
  split
  · exact .ofExcept _
  · refine .bind (readHits_keeps keeps visibility query batchSize) fun inspection => ?_
    exact .bind (.emit keeps rfl) fun _ => .pure _

theorem checkSample_keeps [Memory] (plan : SamplePlan) (totalHits : Nat) :
    Keeps kept (checkSample backend visibility query plan totalHits) := by
  rw [checkSample]
  split
  · refine .bind (.emit keeps rfl) fun _ => .bind ?_ fun _ => .pure _
    rw [inspectSample]
    refine .bind (drawHits_keeps keeps query _ _ _ _) fun hits => ?_
    exact .bind (.inspectHits visibility hits) fun _ => .pure _
  · refine .bind (.emit keeps rfl) fun _ => ?_
    exact .bind (readHits_keeps keeps visibility query plan.batchSize) fun _ => .pure _

end Steps

end VisibleFacets
