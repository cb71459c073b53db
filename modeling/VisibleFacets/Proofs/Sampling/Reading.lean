import VisibleFacets.Sampling.Source

/-!
# What a source gives

`Source.Gives` is the reading of items in a row. Both loops over a source are determined by it: they
go on from where the items end, with what the steps made of them. Conversely, a loop without a bound
that ends has read items in a row and then stopped (`Source.drain_stops`).
-/

namespace VisibleFacets

variable {ς ε α β : Type}

namespace Source

/-- From the first state the source gives these items, one after the other, and is then in the
second. -/
inductive Gives (source : Source ς ε α) : ς → List α → ς → Prop
  | nil {state : ς} : Gives source state [] state
  | cons {item : α} {items : List α} {state next last : ς}
      (told : source.next state = (some (.ok item), next)) (rest : Gives source next items last) :
      Gives source state (item :: items) last

/-- Every item in turn is accepted by the step, which takes the first value to the second. -/
inductive Accepts (step : α → β → Except ε Unit × β) : β → List α → β → Prop
  | nil {value : β} : Accepts step value [] value
  | cons {item : α} {items : List α} {value next last : β}
      (accepted : step item value = (.ok (), next)) (rest : Accepts step next items last) :
      Accepts step value (item :: items) last

theorem Gives.ofList (items : List α) (rest : List (Except ε α)) :
    Gives Source.ofList (items.map .ok ++ rest) items rest := by
  induction items with
  | nil => exact .nil
  | cons item items ih => exact .cons rfl ih

theorem Gives.unique {source : Source ς ε α} {items others : List α} {state next final last beyond : ς}
    (gives : Gives source state items next) (regives : Gives source state others final)
    (ended : source.next next = (none, last)) (reended : source.next final = (none, beyond)) :
    items = others := by
  induction gives generalizing others with
  | nil =>
    cases regives with
    | nil => rfl
    | cons told => cases ended.symm.trans told
  | cons told _ ih =>
    cases regives with
    | nil => cases reended.symm.trans told
    | cons retold rest =>
      cases told.symm.trans retold
      rw [ih rest ended]

theorem Accepts.of_total {step : α → β → Except ε Unit × β} {advance : α → β → β}
    (total : ∀ item value, step item value = (.ok (), advance item value)) (items : List α)
    (value : β) : Accepts step value items (items.foldl (fun value item => advance item value) value) := by
  induction items generalizing value with
  | nil => exact .nil
  | cons item items ih => exact .cons (total item value) (ih _)

section Loops

variable {source : Source ς ε α} {step : α → β → Except ε Unit × β}

theorem fold_append {items : List α} {state next : ς} {value reached : β}
    (gives : Gives source state items next) (accepts : Accepts step value items reached)
    (limit : Nat) :
    source.fold step (items.length + limit) value state = source.fold step limit reached next := by
  induction gives generalizing value with
  | nil =>
    cases accepts
    rw [List.length_nil, Nat.zero_add]
  | cons told _ ih =>
    cases accepts with
    | cons accepted rest =>
      rw [List.length_cons, Nat.add_right_comm, fold, told]
      simp only [accepted]
      exact ih rest

theorem fold_length {items : List α} {state next : ς} {value reached : β}
    (gives : Gives source state items next) (accepts : Accepts step value items reached) :
    source.fold step items.length value state = (.ok (), reached, next) := by
  rw [← Nat.add_zero items.length, fold_append gives accepts, fold]

theorem drain_append {items : List α} {state next : ς} {value reached : β}
    (gives : Gives source state items next) (accepts : Accepts step value items reached) :
    source.drain step value state = source.drain step reached next := by
  induction gives generalizing value with
  | nil =>
    cases accepts
    rfl
  | cons told _ ih =>
    cases accepts with
    | cons accepted rest =>
      rw [drain, told]
      simp only [accepted]
      exact ih rest

theorem fold_refusal {item : α} {state next : ς} {value reached : β} {error : ε}
    (told : source.next state = (some (.ok item), next))
    (refused : step item value = (.error error, reached)) (limit : Nat) :
    source.fold step (limit + 1) value state = (.error error, reached, next) := by
  rw [fold, told]
  simp only [refused]

theorem drain_end {state next : ς} {value : β} (ended : source.next state = (none, next)) :
    source.drain step value state = some (.ok (), value, next) := by
  rw [drain, ended]

theorem drain_failure {state next : ς} {value : β} {error : ε}
    (failed : source.next state = (some (.error error), next)) :
    source.drain step value state = some (.error error, value, next) := by
  rw [drain, failed]

theorem drain_refusal {item : α} {state next : ς} {value reached : β} {error : ε}
    (told : source.next state = (some (.ok item), next))
    (refused : step item value = (.error error, reached)) :
    source.drain step value state = some (.error error, reached, next) := by
  rw [drain, told]
  simp only [refused]

/-- The item that a loop asks for next is not accepted, and the loop stops with this. -/
inductive Stops (source : Source ς ε α) (step : α → β → Except ε Unit × β) (value : β)
    (state : ς) : Except ε Unit × β × ς → Prop
  | ended {next : ς} (told : source.next state = (none, next)) :
      Stops source step value state (.ok (), value, next)
  | failed {error : ε} {next : ς} (told : source.next state = (some (.error error), next)) :
      Stops source step value state (.error error, value, next)
  | refused {item : α} {error : ε} {next : ς} {reached : β}
      (told : source.next state = (some (.ok item), next))
      (refused : step item value = (.error error, reached)) :
      Stops source step value state (.error error, reached, next)

theorem drain_stops {state : ς} {value : β} {result : Except ε Unit × β × ς}
    (drained : source.drain step value state = some result) :
    ∃ items reached next, Gives source state items next ∧ Accepts step value items reached ∧
      Stops source step reached next result := by
  refine drain.partial_correctness source step
    (fun value state result => ∃ items reached next, Gives source state items next ∧
      Accepts step value items reached ∧ Stops source step reached next result)
    (fun rest later value state result round => ?_) value state result drained
  split at round
  case h_1 told =>
    cases round
    exact ⟨[], value, state, .nil, .nil, .ended told⟩
  case h_2 told =>
    cases round
    exact ⟨[], value, state, .nil, .nil, .failed told⟩
  case h_3 item next told =>
    split at round
    case h_1 refused =>
      cases round
      exact ⟨[], value, state, .nil, .nil, .refused told refused⟩
    case h_2 accepted =>
      obtain ⟨items, reached, last, gives, accepts, stops⟩ := later _ _ _ round
      exact ⟨item :: items, reached, last, .cons told gives, .cons accepted accepts, stops⟩

/-- Where the items end, a loop over them ends, if a step does not end it earlier. -/
theorem drain_ends {items : List α} {state next last : ς} {item : Option (Except ε α)}
    (gives : Gives source state items next) (told : source.next next = (item, last))
    (without : ∀ further, item ≠ some (.ok further)) (value : β) :
    ∃ result, source.drain step value state = some result := by
  induction gives generalizing value with
  | nil =>
    rcases item with _ | _ | further
    case none => exact ⟨_, drain_end told⟩
    case some.error => exact ⟨_, drain_failure told⟩
    case some.ok => exact absurd rfl (without further)
  | @cons item _ _ _ _ given _ ih =>
    rcases stepped : step item value with ⟨_ | _, value⟩
    case error => exact ⟨_, drain_refusal given stepped⟩
    case ok =>
      obtain ⟨result, ended⟩ := ih told value
      exact ⟨result, (drain_append (.cons given .nil) (.cons stepped .nil)).trans ended⟩

/-- A loop that never ends accepts as many items as one likes. -/
theorem drain_endless {state : ς} {value : β} (endless : source.drain step value state = none)
    (count : Nat) :
    ∃ items reached next, items.length = count ∧ Gives source state items next ∧
      Accepts step value items reached := by
  induction count generalizing state value with
  | zero => exact ⟨[], value, state, rfl, .nil, .nil⟩
  | succ count ih =>
    rcases told : source.next state with ⟨_ | _ | item, next⟩
    case none => cases endless.symm.trans (drain_end told)
    case some.error => cases endless.symm.trans (drain_failure told)
    case some.ok =>
      rcases stepped : step item value with ⟨_ | _, further⟩
      case error => cases endless.symm.trans (drain_refusal told stepped)
      case ok =>
        have later := drain_append (.cons told .nil) (.cons stepped .nil)
        obtain ⟨items, reached, last, rfl, gives, accepts⟩ := ih (later.symm.trans endless)
        exact ⟨item :: items, reached, last, rfl, .cons told gives, .cons stepped accepts⟩

/-- Every step of a bounded loop keeps what holds of its value. -/
theorem fold_invariant {kept : β → Prop}
    (keeps : ∀ item value, kept value → kept (step item value).2) (limit : Nat) {value : β}
    (start : kept value) (state : ς) : kept (source.fold step limit value state).2.1 := by
  induction limit generalizing value state with
  | zero => exact start
  | succ limit ih =>
    rw [fold]
    split
    · exact start
    · exact start
    · rename_i item _ _
      have next := keeps item value start
      split
      · rename_i refused
        rwa [refused] at next
      · rename_i accepted
        rw [accepted] at next
        exact ih next _

end Loops

end Source

end VisibleFacets
