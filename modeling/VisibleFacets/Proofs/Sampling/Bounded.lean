import VisibleFacets.Proofs.Sampling.Filling

/-!
# Reading up to a limit

`Source.Reads` is the reading of at most so many items. A sample of a population of this size is
determined by it: `sample_of_reads` reduces it to the reservoir filled with the items that are read.
-/

namespace VisibleFacets

variable {γ ς ε α β : Type}

namespace Source

/-- At most so many items are read, one after the other. There are fewer only if the source ends or
fails before. -/
inductive Reads (source : Source ς ε α) : Nat → ς → List α → Option ε → ς → Prop
  | enough {state : ς} : Reads source 0 state [] none state
  | ended {limit : Nat} {state last : ς} (told : source.next state = (none, last)) :
      Reads source (limit + 1) state [] none last
  | failed {limit : Nat} {state last : ς} {error : ε}
      (told : source.next state = (some (.error error), last)) :
      Reads source (limit + 1) state [] (some error) last
  | more {limit : Nat} {item : α} {items : List α} {failure : Option ε} {state next last : ς}
      (told : source.next state = (some (.ok item), next))
      (rest : Reads source limit next items failure last) :
      Reads source (limit + 1) state (item :: items) failure last

variable {source : Source ς ε α}

theorem reads_exists (source : Source ς ε α) (limit : Nat) (state : ς) :
    ∃ items failure last, source.Reads limit state items failure last := by
  induction limit generalizing state with
  | zero => exact ⟨[], none, state, .enough⟩
  | succ limit ih =>
    cases told : source.next state with
    | mk answer next =>
      cases answer with
      | none => exact ⟨[], none, next, .ended told⟩
      | some answer =>
        cases answer with
        | error error => exact ⟨[], some error, next, .failed told⟩
        | ok item =>
          obtain ⟨items, failure, last, reads⟩ := ih next
          exact ⟨item :: items, failure, last, .more told reads⟩

theorem Reads.unique {limit : Nat} {state last final : ς} {items others : List α}
    {failure other : Option ε} (reads : source.Reads limit state items failure last)
    (rereads : source.Reads limit state others other final) :
    others = items ∧ other = failure ∧ final = last := by
  induction reads generalizing others with
  | enough =>
    cases rereads
    exact ⟨rfl, rfl, rfl⟩
  | ended told =>
    cases rereads with
    | ended retold => cases told.symm.trans retold; exact ⟨rfl, rfl, rfl⟩
    | failed retold => cases told.symm.trans retold
    | more retold => cases told.symm.trans retold
  | failed told =>
    cases rereads with
    | ended retold => cases told.symm.trans retold
    | failed retold => cases told.symm.trans retold; exact ⟨rfl, rfl, rfl⟩
    | more retold => cases told.symm.trans retold
  | more told _ ih =>
    cases rereads with
    | ended retold => cases told.symm.trans retold
    | failed retold => cases told.symm.trans retold
    | more retold rest =>
      cases told.symm.trans retold
      obtain ⟨rfl, same⟩ := ih rest
      exact ⟨rfl, same⟩

theorem Gives.reads {limit : Nat} {state next last : ς} {items more : List α} {failure : Option ε}
    (gives : source.Gives state items next) (reads : source.Reads limit next more failure last) :
    source.Reads (items.length + limit) state (items ++ more) failure last := by
  induction gives with
  | nil => simpa using reads
  | cons told _ ih =>
    rw [List.length_cons, Nat.add_right_comm]
    exact .more told (ih reads)

theorem Reads.of_next_eq {limit : Nat} {state other last : ς} {items : List α} {failure : Option ε}
    (reads : source.Reads (limit + 1) state items failure last)
    (same : source.next other = source.next state) :
    source.Reads (limit + 1) other items failure last := by
  cases reads with
  | ended told => exact .ended (same.trans told)
  | failed told => exact .failed (same.trans told)
  | more told rest => exact .more (same.trans told) rest

theorem Reads.gives {limit : Nat} {state last : ς} {items : List α} {failure : Option ε}
    (reads : source.Reads limit state items failure last) :
    ∃ next, source.Gives state items next ∧
      (items.length = limit ∧ failure = none ∧ last = next ∨
        items.length < limit ∧ source.next next = (failure.map .error, last)) := by
  induction reads with
  | enough => exact ⟨_, .nil, .inl ⟨rfl, rfl, rfl⟩⟩
  | ended told => exact ⟨_, .nil, .inr ⟨Nat.succ_pos _, told⟩⟩
  | failed told => exact ⟨_, .nil, .inr ⟨Nat.succ_pos _, told⟩⟩
  | more told _ ih =>
    obtain ⟨next, gives, full | short⟩ := ih
    · exact ⟨next, .cons told gives, .inl ⟨congrArg Nat.succ full.1, full.2⟩⟩
    · exact ⟨next, .cons told gives, .inr ⟨Nat.succ_lt_succ short.1, short.2⟩⟩

theorem fold_reads {step : α → β → Except ε Unit × β} {limit : Nat} {state last : ς}
    {items : List α} {failure : Option ε} {value reached : β}
    (reads : source.Reads limit state items failure last)
    (accepts : Accepts step value items reached) :
    source.fold step limit value state = (failure.elim (.ok ()) .error, reached, last) := by
  induction reads generalizing value with
  | enough =>
    cases accepts
    rfl
  | ended told =>
    cases accepts
    rw [fold, told]
    rfl
  | failed told =>
    cases accepts
    rw [fold, told]
    rfl
  | more told _ ih =>
    cases accepts with
    | cons accepted rest =>
      rw [fold, told]
      simp only [accepted]
      exact ih rest

end Source

section Sampling

variable [Memory] (dice : Dice γ) {source : Source ς ε α}

theorem sample_of_room {population size : Nat} (positive : 0 < size)
    (room : min size population ≤ Memory.room) (generator : γ) (state : ς) :
    sample dice source population size generator state =
      let step (item : α) (reservoir : Reservoir γ α) := (.ok (), reservoir.add dice size item)
      let (outcome, reservoir, state) := source.fold step population (.start generator) state
      ((outcome.map fun _ => reservoir.slots).mapError .failed, reservoir.dice, state) := by
  rw [sample, if_neg (Nat.not_lt.mpr room), if_neg (Nat.ne_of_gt positive)]

theorem sample_zero (source : Source ς ε α) (population : Nat) (generator : γ) (state : ς) :
    sample dice source population 0 generator state = (.ok [], generator, state) := by
  rw [sample, Nat.zero_min, if_neg (Nat.not_lt_zero _), if_pos rfl]

theorem sample_of_noRoom {population size : Nat} (noRoom : Memory.room < min size population)
    (generator : γ) (state : ς) :
    sample dice source population size generator state = (.error .noRoom, generator, state) := by
  rw [sample, if_pos noRoom]

theorem sample_of_reads {population size : Nat} {items : List α} {failure : Option ε}
    (positive : 0 < size) (room : min size population ≤ Memory.room) (generator : γ)
    {state last : ς} (reads : source.Reads population state items failure last) :
    sample dice source population size generator state =
      (failure.elim (.ok (Reservoir.filled dice size generator items).slots) (.error ∘ .failed),
        (Reservoir.filled dice size generator items).dice, last) := by
  have accepts : Source.Accepts (ε := ε)
      (fun item (reservoir : Reservoir γ α) => (.ok (), reservoir.add dice size item))
      (.start generator) items (Reservoir.filled dice size generator items) :=
    .of_total (fun _ _ => rfl) items _
  rw [sample_of_room dice positive room]
  simp only [Source.fold_reads reads accepts]
  cases failure <;> rfl

theorem sample_of_gives {items : List α} {size : Nat} (positive : 0 < size)
    (room : min size items.length ≤ Memory.room) (generator : γ) {state next : ς}
    (gives : source.Gives state items next) :
    sample dice source items.length size generator state =
      (.ok (Reservoir.filled dice size generator items).slots,
        (Reservoir.filled dice size generator items).dice, next) := by
  have reads := gives.reads .enough
  rw [Nat.add_zero, List.append_nil] at reads
  exact sample_of_reads dice positive room generator reads

end Sampling

end VisibleFacets
