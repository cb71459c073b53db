import VisibleFacets.Proofs.Sampling.Positions

/-!
# Sampling from a source that fails

A failure counts by its position alone. Among the first items of the population it ends the
sampling, with as many items taken and numbers rolled as come before it, and behind them it is not
seen: `sample_of_fallible`.
-/

namespace VisibleFacets

variable {γ ς ε α : Type}

/-- The same dice, with the number of rolls beside their state. -/
def Dice.counted (dice : Dice γ) : Dice (γ × Nat) where
  roll sides counted :=
    let (number, state) := dice.roll sides counted.1
    (number, state, counted.2 + 1)

theorem Dice.rolls_counted (dice : Dice γ) (size later : Nat) (generator : γ) :
    (dice.counted.rolls size later (generator, 0)).2 =
      ((dice.rolls size later generator).2, later) := by
  induction later with
  | zero => rfl
  | succ later ih =>
    simp only [Dice.rolls, ih]
    rfl

namespace Source

/-- The same source, with the number of items it has given beside its state. -/
def counted (source : Source ς ε α) : Source (ς × Nat) ε α where
  next counted :=
    let (item, state) := source.next counted.1
    (item, state, if item.isSome then counted.2 + 1 else counted.2)

/-- After so many items the source fails, and is then in the last state. -/
def FailsAt (source : Source ς ε α) (state : ς) (index : Nat) (error : ε) (last : ς) : Prop :=
  ∃ items before, items.length = index ∧ source.Gives state items before ∧
    source.next before = (some (.error error), last)

variable {source : Source ς ε α} {state last : ς} {index : Nat} {error : ε}

theorem Gives.counted {items : List α} {next : ς} (gives : source.Gives state items next)
    (taken : Nat) : source.counted.Gives (state, taken) items (next, taken + items.length) := by
  induction gives generalizing taken with
  | nil => exact .nil
  | cons told _ ih =>
    have rest := ih (taken + 1)
    rw [Nat.add_right_comm, Nat.add_assoc] at rest
    exact .cons (by simp [Source.counted, told]) rest

theorem FailsAt.counted (fails : source.FailsAt state index error last) :
    source.counted.FailsAt (state, 0) index error (last, index + 1) := by
  obtain ⟨items, before, rfl, gives, told⟩ := fails
  have taken := gives.counted 0
  rw [Nat.zero_add] at taken
  exact ⟨items, _, rfl, taken, by simp [Source.counted, told]⟩

theorem FailsAt.reads {population : Nat} (fails : source.FailsAt state index error last)
    (inside : index < population) :
    ∃ items, items.length = index ∧ source.Reads population state items (some error) last := by
  obtain ⟨items, before, rfl, gives, told⟩ := fails
  obtain ⟨more, rfl⟩ := Nat.exists_eq_add_of_lt inside
  have reads := gives.reads (.failed told : source.Reads (more + 1) before [] _ last)
  rw [List.append_nil] at reads
  exact ⟨items, rfl, reads⟩

theorem Gives.not_failsAt {items : List α} {next : ς} (gives : source.Gives state items next)
    (inside : index < items.length) : ¬ source.FailsAt state index error last := by
  rintro ⟨others, before, rfl, regives, failed⟩
  induction gives generalizing others with
  | nil => exact absurd inside (Nat.not_lt_zero _)
  | cons told _ ih =>
    cases regives with
    | nil => cases told.symm.trans failed
    | cons retold rest =>
      cases told.symm.trans retold
      exact ih _ (Nat.lt_of_succ_lt_succ inside) rest

theorem reads_ofList {population : Nat} {values : List α} (few : values.length ≤ population) :
    (ofList : Source _ ε α).Reads population (values.map .ok) values none [] := by
  have gives := Gives.ofList (ε := ε) values []
  rw [List.append_nil] at gives
  obtain ⟨more, rfl⟩ := Nat.exists_eq_add_of_le few
  have ended : (ofList : Source _ ε α).Reads more [] [] none [] := by
    cases more with
    | zero => exact .enough
    | succ more => exact .ended rfl
  simpa using gives.reads ended

end Source

theorem sample_of_failsAt [Memory] (dice : Dice γ) {source : Source ς ε α}
    {population size index : Nat} {error : ε} {state last : ς} (positive : 0 < size)
    (room : min size population ≤ Memory.room) (inside : index < population)
    (fails : source.FailsAt state index error last) (generator : γ) :
    sample dice source population size generator state =
      (.error (.failed error), (dice.rolls size (index - size) generator).2, last) := by
  obtain ⟨items, rfl, reads⟩ := fails.reads inside
  rw [sample_of_reads dice positive room generator reads, Reservoir.dice_filled]
  rfl

/-- The failure after fewer items than the population has ends the sampling, if there are slots and
room for them. It is the last thing taken, and a number has been rolled for each item before it but
the first `size`. Without slots nothing is read. If no item of the population fails, the sample is
that of the items as they are, and nothing behind them is taken. Where there is no room nothing is
read or rolled, and no failure is seen. -/
theorem sample_of_fallible [Memory] (dice : Dice γ) (source : Source ς ε α) (population size : Nat)
    (generator : γ) (state : ς) :
    (∀ index error last, 0 < size → min size population ≤ Memory.room → index < population →
        source.FailsAt state index error last →
      sample dice source population size generator state =
        (.error (.failed error), (dice.rolls size (index - size) generator).2, last) ∧
      sample dice.counted source.counted population size (generator, 0) (state, 0) =
        (.error (.failed error), ((dice.rolls size (index - size) generator).2, index - size),
          (last, index + 1))) ∧
    (size = 0 → sample dice source population size generator state = (.ok [], generator, state) ∧
      ∀ values : List (Except Empty α),
        sample dice .ofList population size generator values = (.ok [], generator, values)) ∧
    (0 < size → min size population ≤ Memory.room →
        (∀ index error last, index < population → ¬ source.FailsAt state index error last) →
      ∃ values next last slots rolled, source.Gives state values next ∧
        (values.length = population ∧ last = next ∨
          values.length < population ∧ source.next next = (none, last)) ∧
        sample dice .ofList population size generator (values.map (.ok (ε := Empty))) =
          (.ok slots, rolled, []) ∧
        sample dice source population size generator state = (.ok slots, rolled, last)) ∧
    (Memory.room < min size population →
      sample dice source population size generator state = (.error .noRoom, generator, state)) := by
  refine ⟨?failing, ?nothing, ?sampled, fun noRoom => sample_of_noRoom dice noRoom _ _⟩
  case failing =>
    intro index error last positive room inside fails
    have counted :=
      sample_of_failsAt dice.counted positive room inside fails.counted (generator, 0)
    rw [Dice.rolls_counted] at counted
    exact ⟨sample_of_failsAt dice positive room inside fails generator, counted⟩
  case nothing =>
    rintro rfl
    exact ⟨sample_zero .., fun _ => sample_zero ..⟩
  case sampled =>
    intro positive room without
    obtain ⟨values, failure, last, reads⟩ := source.reads_exists population state
    obtain ⟨next, gives, ending⟩ := reads.gives
    cases failure with
    | some error =>
      rcases ending with ⟨-, none, -⟩ | ⟨short, told⟩
      · cases none
      · exact absurd ⟨values, next, rfl, gives, told⟩ (without _ error last short)
    | none =>
      have few : values.length ≤ population := by
        rcases ending with ⟨full, -⟩ | ⟨short, -⟩
        · exact Nat.le_of_eq full
        · exact Nat.le_of_lt short
      exact ⟨values, next, last, _, _, gives, ending.imp_left fun full => ⟨full.1, full.2.2⟩,
        sample_of_reads dice positive room generator (Source.reads_ofList few),
        sample_of_reads dice positive room generator reads⟩

/-- The source fails after three items and again after five. -/
theorem sample_of_fallible_twice :
    let source : Source (List (Except String Nat)) String Nat := .ofList
    let items : List (Except String Nat) :=
      [.ok 1, .ok 2, .ok 3, .error "first", .ok 4, .error "second"]
    sample seededDice.counted source.counted 9 2 (.ofSeed 7, 0) (items, 0) =
      (.error (.failed "first"), ((seededDice.rolls 2 1 (.ofSeed 7)).2, 1),
        ([.ok 4, .error "second"], 4)) ∧
    sample seededDice source 9 0 (.ofSeed 7) items = (.ok [], .ofSeed 7, items) ∧
    ∃ (values : List Nat) (last : List (Except String Nat)) (slots : List Nat) (rolled : Generator),
      sample seededDice .ofList 3 2 (.ofSeed 7) (values.map (.ok (ε := Empty))) =
        (.ok slots, rolled, []) ∧
      sample seededDice source 3 2 (.ofSeed 7) items = (.ok slots, rolled, last) := by
  intro source items
  have gives : source.Gives items [1, 2, 3] (items.drop 3) := .ofList [1, 2, 3] _
  obtain ⟨failing, -⟩ := sample_of_fallible seededDice source 9 2 (.ofSeed 7) items
  obtain ⟨-, nothing, -⟩ := sample_of_fallible seededDice source 9 0 (.ofSeed 7) items
  obtain ⟨-, -, sampled, -⟩ := sample_of_fallible seededDice source 3 2 (.ofSeed 7) items
  have fails : source.FailsAt items 3 "first" [.ok 4, .error "second"] :=
    ⟨[1, 2, 3], _, rfl, gives, rfl⟩
  refine ⟨(failing 3 _ _ Nat.two_pos (by decide) (by decide) fails).2, (nothing rfl).1, ?_⟩
  obtain ⟨values, -, last, slots, rolled, -, -, alike⟩ :=
    sampled Nat.two_pos (by decide) fun index error last inside => gives.not_failsAt inside
  exact ⟨values, last, slots, rolled, alike⟩

/-- The third item fails, but there is no room for as many slots as were asked for. -/
theorem sample_failing_of_noRoom :
    let source : Source (List (Except String Nat)) String Nat := .ofList
    let items : List (Except String Nat) := [.ok 1, .ok 2, .error "first", .ok 3]
    let sampled :=
      sample seededDice source (Nat.pow 2 64 - 1) (Nat.pow 2 64 - 1) (.ofSeed 7) items
    source.FailsAt items 2 "first" [.ok 3] ∧ sampled = (.error .noRoom, .ofSeed 7, items) ∧
    ¬ ∃ after, sampled = (.error (.failed "first"), after) := by
  intro source items sampled
  have gives : source.Gives items [1, 2] (items.drop 2) := .ofList [1, 2] _
  have halted : sampled = (.error .noRoom, .ofSeed 7, items) :=
    sample_of_noRoom seededDice (by decide) _ _
  refine ⟨⟨[1, 2], _, rfl, gives, rfl⟩, halted, ?_⟩
  rintro ⟨after, failed⟩
  cases halted.symm.trans failed

end VisibleFacets
