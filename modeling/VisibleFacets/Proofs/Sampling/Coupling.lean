import VisibleFacets.Proofs.Sampling.Reading
import VisibleFacets.Sampling.Reservoir

/-!
# Runs that keep up with others

Of two coupled runs the second answers as the first does, or it stops with a failure, and only if
the first went beyond what the second can follow. If the sources are coupled then so are the loops
over them and the samples drawn from them: `Source.fold_steps`, `Source.drain_alike`,
`sample_steps`.
-/

namespace VisibleFacets

variable {ε σ ρ α β γ : Type}

/-- How the states of two runs belong together, as long as both go on. -/
structure Coupling (ε σ ρ : Type) where
  related : σ → ρ → Prop
  /-- The first run gets here only where the second has stopped. -/
  beyond : σ → Prop
  /-- The failure that the second run stops with, and where it is then. -/
  stopped : ε → ρ → Prop

namespace Coupling

/-- The second run has the answer of the first, or a refusal. -/
inductive KeepsUp (coupling : Coupling ε σ ρ) (refuse : ε → α) : α × σ → α × ρ → Prop
  | along {answer : α} {first : σ} {second : ρ} (related : coupling.related first second) :
      KeepsUp coupling refuse (answer, first) (answer, second)
  | short {answer : α} {first : σ} {second : ρ} {error : ε} (beyond : coupling.beyond first)
      (stopped : coupling.stopped error second) :
      KeepsUp coupling refuse (answer, first) (refuse error, second)

structure Steps (coupling : Coupling ε σ ρ) (refuse : ε → α) (first : σ → α × σ)
    (second : ρ → α × ρ) : Prop where
  keepsUp {state : σ} {other : ρ} (related : coupling.related state other) :
    coupling.KeepsUp refuse (first state) (second other)
  beyond {state : σ} (beyond : coupling.beyond state) : coupling.beyond (first state).2

/-- The same with values beside the states, and equal values belonging together. -/
def beside (coupling : Coupling ε σ ρ) (β : Type) : Coupling ε (β × σ) (β × ρ) where
  related first second := first.1 = second.1 ∧ coupling.related first.2 second.2
  beyond first := coupling.beyond first.2
  stopped error second := coupling.stopped error second.2

variable {coupling : Coupling ε σ ρ} {refuse : ε → α} {first : σ → α × σ} {second : ρ → α × ρ}

theorem Steps.along_or_short (steps : coupling.Steps refuse first second) {state next : σ}
    {other : ρ} {answer : α} (related : coupling.related state other)
    (told : first state = (answer, next)) :
    (∃ follower, second other = (answer, follower) ∧ coupling.related next follower) ∨
    ∃ error follower, second other = (refuse error, follower) ∧ coupling.beyond next ∧
      coupling.stopped error follower := by
  have kept := steps.keepsUp related
  rcases heard : second other with ⟨same, follower⟩
  rw [told, heard] at kept
  cases kept with
  | along related => exact .inl ⟨follower, rfl, related⟩
  | short beyond stopped => exact .inr ⟨_, follower, rfl, beyond, stopped⟩

theorem Steps.beyond_next (steps : coupling.Steps refuse first second) {state next : σ} {answer : α}
    (beyond : coupling.beyond state) (told : first state = (answer, next)) :
    coupling.beyond next := by
  have ahead := steps.beyond beyond
  rwa [told] at ahead

end Coupling

namespace Source

section Kept

variable {source : Source σ ε α} {step : α → β → Except ε Unit × β} {kept : σ → Prop}

theorem fold_succ_keeps {limit : Nat} {value : β} {state : σ}
    (next : kept (source.next state).2)
    (rest : ∀ value {later}, kept later → kept (source.fold step limit value later).2.2) :
    kept (source.fold step (limit + 1) value state).2.2 := by
  rw [fold]
  split
  case h_1 told => rwa [told] at next
  case h_2 told => rwa [told] at next
  case h_3 told =>
    rw [told] at next
    split
    · exact next
    · exact rest _ next

theorem fold_keeps (keeps : ∀ {state}, kept state → kept (source.next state).2) (limit : Nat)
    (value : β) {state : σ} (start : kept state) :
    kept (source.fold step limit value state).2.2 := by
  induction limit generalizing value state with
  | zero => exact start
  | succ limit ih => exact fold_succ_keeps (keeps start) ih

theorem drain_keeps (keeps : ∀ {state}, kept state → kept (source.next state).2) {value : β}
    {state : σ} {result : Except ε Unit × β × σ}
    (drained : source.drain step value state = some result) (start : kept state) :
    kept result.2.2 := by
  obtain ⟨items, reached, last, gives, -, stops⟩ := drain_stops drained
  have follows {state next : σ} {item : Option (Except ε α)} (held : kept state)
      (told : source.next state = (item, next)) : kept next := by
    have after := keeps held
    rwa [told] at after
  have arrived : kept last := by
    clear drained stops
    induction gives with
    | nil => exact start
    | cons told _ ih => exact ih (follows start told)
  cases stops with
  | ended told => exact follows arrived told
  | failed told => exact follows arrived told
  | refused told => exact follows arrived told

end Kept

variable {coupling : Coupling ε σ ρ} {first : Source σ ε α} {second : Source ρ ε α}
  {step : α → β → Except ε Unit × β}

theorem fold_steps (couples : coupling.Steps (some ∘ .error) first.next second.next)
    (step : α → β → Except ε Unit × β) (limit : Nat) :
    (coupling.beside β).Steps Except.error (fun start => first.fold step limit start.1 start.2)
      (fun start => second.fold step limit start.1 start.2) where
  beyond beyond := fold_keeps couples.beyond limit _ beyond
  keepsUp := by
    rintro ⟨value, state⟩ ⟨_, other⟩ ⟨rfl, related⟩
    dsimp only at related ⊢
    induction limit generalizing value state other with
    | zero => exact .along ⟨rfl, related⟩
    | succ limit ih =>
      rcases told : first.next state with ⟨item, next⟩
      rcases couples.along_or_short related told with ⟨follower, heard, related⟩ |
        ⟨error, follower, heard, beyond, stopped⟩
      · rw [fold, fold, told, heard]
        rcases item with _ | _ | item
        case none => exact .along ⟨rfl, related⟩
        case some.error => exact .along ⟨rfl, related⟩
        case some.ok =>
          rcases stepped : step item value with ⟨_ | _, value⟩
          case error => simpa only [stepped] using .along ⟨rfl, related⟩
          case ok => simpa only [stepped] using ih value next follower related
      · have far : coupling.beyond (first.fold step (limit + 1) value state).2.2 :=
          fold_succ_keeps (by rwa [told]) fun value => fold_keeps couples.beyond limit value
        have ended : second.fold step (limit + 1) value other =
            (.error error, value, follower) := by
          rw [fold, heard]
          rfl
        rw [ended]
        exact .short far stopped

/-- Where the first run of a loop to the end has this result, the second keeps up. -/
structure DrainsAlike (coupling : Coupling ε σ ρ) (second : Source ρ ε α)
    (step : α → β → Except ε Unit × β) (value : β) (state : σ) (result : Except ε Unit × β × σ) :
    Prop where
  keepsUp {other : ρ} (related : coupling.related state other) :
    ∃ last, second.drain step value other = some last ∧
      (coupling.beside β).KeepsUp .error result last
  beyond (beyond : coupling.beyond state) : coupling.beyond result.2.2

theorem DrainsAlike.of_end (couples : coupling.Steps (some ∘ .error) first.next second.next)
    {item : Option (Except ε α)} {value reached : β} {state next : σ} {outcome : Except ε Unit}
    (told : first.next state = (item, next))
    (ended : ∀ {other follower}, second.next other = (item, follower) →
      second.drain step value other = some (outcome, reached, follower)) :
    DrainsAlike coupling second step value state (outcome, reached, next) where
  beyond beyond := couples.beyond_next beyond told
  keepsUp {other} related := by
    rcases couples.along_or_short related told with ⟨follower, heard, related⟩ |
      ⟨error, follower, heard, beyond, stopped⟩
    · exact ⟨_, ended heard, .along ⟨rfl, related⟩⟩
    · exact ⟨_, drain_failure heard, .short beyond stopped⟩

theorem DrainsAlike.of_rest (couples : coupling.Steps (some ∘ .error) first.next second.next)
    {item : α} {value reached : β} {state next : σ} {result : Except ε Unit × β × σ}
    (told : first.next state = (some (.ok item), next))
    (accepted : step item value = (.ok (), reached))
    (rest : DrainsAlike coupling second step reached next result) :
    DrainsAlike coupling second step value state result where
  beyond beyond := rest.beyond (couples.beyond_next beyond told)
  keepsUp {other} related := by
    rcases couples.along_or_short related told with ⟨follower, heard, related⟩ |
      ⟨error, follower, heard, beyond, stopped⟩
    · have one : second.drain step value other = second.drain step reached follower :=
        drain_append (.cons heard .nil) (.cons accepted .nil)
      rw [one]
      exact rest.keepsUp related
    · exact ⟨_, drain_failure heard, .short (rest.beyond beyond) stopped⟩

theorem drain_alike (couples : coupling.Steps (some ∘ .error) first.next second.next) {value : β}
    {state : σ} {result : Except ε Unit × β × σ}
    (drained : first.drain step value state = some result) :
    DrainsAlike coupling second step value state result := by
  obtain ⟨items, reached, last, gives, accepts, stops⟩ := drain_stops drained
  -- By induction on the items read, for which the result from the first of them on is not needed.
  clear drained
  induction gives generalizing value with
  | nil =>
    cases accepts
    cases stops with
    | ended told => exact .of_end couples told drain_end
    | failed told => exact .of_end couples told drain_failure
    | refused told refused => exact .of_end couples told fun heard => drain_refusal heard refused
  | cons told _ ih =>
    cases accepts with
    | cons accepted rest => exact .of_rest couples told accepted (ih rest stops)

end Source

theorem sample_keeps [Memory] {source : Source σ ε α} {kept : σ → Prop}
    (keeps : ∀ {state}, kept state → kept (source.next state).2) (dice : Dice γ)
    (population size : Nat) (generator : γ) {state : σ} (start : kept state) :
    kept (sample dice source population size generator state).2.2 := by
  rw [sample]
  split
  · exact start
  split
  · exact start
  · exact Source.fold_keeps keeps population _ start

theorem sample_steps [Memory] {coupling : Coupling ε σ ρ} {first : Source σ ε α}
    {second : Source ρ ε α}
    (couples : coupling.Steps (some ∘ .error) first.next second.next) (dice : Dice γ)
    (population size : Nat) :
    (coupling.beside γ).Steps (.error ∘ .failed)
      (fun start => sample dice first population size start.1 start.2)
      (fun start => sample dice second population size start.1 start.2) := by
  let step (item : α) (reservoir : Reservoir γ α) : Except ε Unit × Reservoir γ α :=
    (.ok (), reservoir.add dice size item)
  have read := Source.fold_steps couples step population
  constructor
  · rintro ⟨generator, state⟩ ⟨_, other⟩ ⟨rfl, related⟩
    dsimp only at related ⊢
    rw [sample, sample]
    split
    case isTrue => exact .along ⟨rfl, related⟩
    split
    case isTrue => exact .along ⟨rfl, related⟩
    case isFalse =>
      rcases told : first.fold step population (.start generator) state with
        ⟨outcome, reservoir, next⟩
      have start : (coupling.beside (Reservoir γ α)).related (.start generator, state)
        (.start generator, other) := ⟨rfl, related⟩
      rcases read.along_or_short start told with ⟨⟨_, follower⟩, heard, rfl, related⟩ |
        ⟨error, ⟨kept, follower⟩, heard, beyond, stopped⟩
      · simp only [step] at told heard
        simp only [told, heard]
        exact .along ⟨rfl, related⟩
      · simp only [step] at told heard
        simp only [told, heard]
        exact .short beyond stopped
  · rintro ⟨generator, state⟩ beyond
    exact sample_keeps couples.beyond dice population size generator beyond

end VisibleFacets
