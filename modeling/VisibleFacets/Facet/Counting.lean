import VisibleFacets.Access.Visibility
import VisibleFacets.Sampling.Keystream
import VisibleFacets.Search.Pager

/-!
# Steps of a count

A count works on a bench: a backend with the signals so far, and the state of the check. Each step
changes the bench and succeeds or fails; the first failure ends the count. A step that reads hits
without end has no result. Main definitions: `Counting`, `inspect`, `readHits`, `inspectSample`.
-/

namespace VisibleFacets

variable {σ τ α β : Type}

structure Bench (σ τ : Type) where
  observed : Observed σ
  checks : τ

def Bench.report (bench : Bench σ τ) (signals : List Signal) : Bench σ τ :=
  { bench with observed := { bench.observed with signals := bench.observed.signals ++ signals } }

theorem Bench.report_state (bench : Bench σ τ) (signals : List Signal) :
    (bench.report signals).observed.state = bench.observed.state := rfl

/-- A step of a count; `none` is a step that never ends. -/
def Counting (σ τ α : Type) := Bench σ τ → Option (Except Error α × Bench σ τ)

namespace Counting

def run (step : Counting σ τ α) (bench : Bench σ τ) : Option (Except Error α × Bench σ τ) :=
  step bench

instance : Monad (Counting σ τ) where
  pure value := fun bench => some (.ok value, bench)
  bind first second := fun bench =>
    match first bench with
    | none => none
    | some (.error error, bench) => some (.error error, bench)
    | some (.ok value, bench) => second value bench

def fail (error : Error) : Counting σ τ α := fun bench => some (.error error, bench)

def ofExcept (outcome : Except Error α) : Counting σ τ α := fun bench => some (outcome, bench)

def emit (signals : List Signal) : Counting σ τ Unit := fun bench =>
  some (.ok (), bench.report signals)

def ask (call : σ → Except Error α × σ) : Counting σ τ α := fun bench =>
  let (answer, state) := call bench.observed.state
  some (answer, { bench with observed := { bench.observed with state } })

@[simp] theorem run_pure (value : α) (bench : Bench σ τ) :
    run (pure value) bench = some (.ok value, bench) := rfl

theorem run_emit (signals : List Signal) (bench : Bench σ τ) :
    run (emit signals) bench = some (.ok (), bench.report signals) := rfl

theorem run_ask (call : σ → Except Error α × σ) (bench : Bench σ τ) :
    run (ask call) bench = some ((call bench.observed.state).1, { bench with
      observed := { bench.observed with state := (call bench.observed.state).2 } }) := rfl

theorem run_ofExcept (outcome : Except Error α) (bench : Bench σ τ) :
    run (ofExcept outcome) bench = some (outcome, bench) := rfl

theorem run_bind (first : Counting σ τ α) (second : α → Counting σ τ β) (bench : Bench σ τ) :
    run (first >>= second) bench =
      match run first bench with
      | none => none
      | some (.error error, bench) => some (.error error, bench)
      | some (.ok value, bench) => run (second value) bench := rfl

theorem run_bind_ok {first : Counting σ τ α} {bench after : Bench σ τ} {value : α}
    (succeeded : run first bench = some (.ok value, after)) (second : α → Counting σ τ β) :
    run (first >>= second) bench = run (second value) after := by
  rw [run_bind, succeeded]

theorem run_bind_error {first : Counting σ τ α} {bench after : Bench σ τ} {error : Error}
    (failed : run first bench = some (.error error, after)) (second : α → Counting σ τ β) :
    run (first >>= second) bench = some (.error error, after) := by
  rw [run_bind, failed]

theorem bind_assoc {γ : Type} (first : Counting σ τ α) (second : α → Counting σ τ β)
    (third : β → Counting σ τ γ) :
    first >>= second >>= third = first >>= fun value => second value >>= third := by
  funext bench
  simp only [bind]
  rcases first bench with _ | ⟨_ | value, middle⟩ <;> rfl

theorem run_bind_eq_some {first : Counting σ τ α} {second : α → Counting σ τ β}
    {bench after : Bench σ τ} {outcome : Except Error β}
    (ended : run (first >>= second) bench = some (outcome, after)) :
    (∃ error, outcome = .error error ∧ run first bench = some (.error error, after)) ∨
    ∃ value middle, run first bench = some (.ok value, middle) ∧
      run (second value) middle = some (outcome, after) := by
  rw [run_bind] at ended
  rcases begun : run first bench with _ | ⟨error | value, middle⟩ <;> rw [begun] at ended
  case none => cases ended
  case some.error =>
    cases ended
    exact .inl ⟨error, rfl, rfl⟩
  case some.ok => exact .inr ⟨value, middle, rfl, ended⟩

theorem run_bind_eq_ok {first : Counting σ τ α} {second : α → Counting σ τ β}
    {bench after : Bench σ τ} {value : β}
    (succeeded : run (first >>= second) bench = some (.ok value, after)) :
    ∃ middle next, run first bench = some (.ok middle, next) ∧
      run (second middle) next = some (.ok value, after) := by
  rcases run_bind_eq_some succeeded with ⟨_, failed, -⟩ | began
  · cases failed
  · exact began

end Counting

/-- How many hits were checked, and the visible ones among them, the latest first. -/
structure Inspection where
  checked : Nat := 0
  visible : List Hit := []
  deriving Inhabited

def inspect (visibility : Visibility τ) (hit : Hit) (progress : Inspection × τ) :
    Except Error Unit × Inspection × τ :=
  let (inspection, checks) := progress
  let inspection := { inspection with checked := inspection.checked + 1 }
  match visibility.check hit checks with
  | (.error error, checks) => (.error error, inspection, checks)
  | (.ok true, checks) =>
    (.ok (), { inspection with visible := hit :: inspection.visible }, checks)
  | (.ok false, checks) => (.ok (), inspection, checks)

def inspectItems (visibility : Visibility τ) (items : List (Except Error Hit)) (checks : τ) :
    Except Error Inspection × τ :=
  let (outcome, (inspection, checks), _) :=
    Source.ofList.fold (inspect visibility) items.length ({}, checks) items
  (outcome.map fun _ => inspection, checks)

def accessibleCount (visibility : Visibility τ) (items : List (Except Error Hit)) (checks : τ) :
    Except Error Nat × τ :=
  let (outcome, checks) := inspectItems visibility items checks
  (outcome.map fun inspection => inspection.visible.length, checks)

def readHits (backend : Backend σ) (visibility : Visibility τ) (query : Query) (batchSize : Nat) :
    Counting σ τ Inspection := fun bench =>
  match (Pager.source backend query).drain (inspect visibility) ({}, bench.checks)
      (.start batchSize, bench.observed) with
  | none => none
  | some (outcome, (inspection, checks), (_, observed)) =>
    some (outcome.map fun _ => inspection, ⟨observed, checks⟩)

/-- Counting stops where a sampling does. -/
def Halt.error : Halt Error → Error
  | failed error => error
  | noRoom => .noRoom

def drawHits [Memory] (backend : Backend σ) (query : Query)
    (batchSize population size seed : Nat) : Counting σ τ (List Hit) := fun bench =>
  let (outcome, _, (_, observed)) :=
    sample seededDice (Pager.source backend query) population size (Generator.ofSeed seed)
      (.start batchSize, bench.observed)
  some (outcome.mapError Halt.error, { bench with observed })

def inspectHits (visibility : Visibility τ) (hits : List Hit) : Counting σ τ Inspection :=
  fun bench =>
    let (outcome, checks) := inspectItems visibility (hits.map .ok) bench.checks
    some (outcome, { bench with checks })

def inspectSample [Memory] (backend : Backend σ) (visibility : Visibility τ) (query : Query)
    (batchSize population size seed : Nat) : Counting σ τ (List Hit × Inspection) := do
  let hits ← drawHits backend query batchSize population size seed
  let inspection ← inspectHits visibility hits
  return (hits, inspection)

end VisibleFacets
