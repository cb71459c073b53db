import VisibleFacets.Proofs.Sampling.Bounded
import VisibleFacets.Proofs.Sampling.Rolls

/-!
# Which items a sample holds

Sampling rolls one number for every item after those that fill the slots, and a slot holds the last
item that rolled it: `sample_holds`. The items themselves play no part in this, so it is proved of
their positions.
-/

namespace VisibleFacets

variable {γ ς α β : Type}

/-- The numbers rolled for so many items after the first `size`, in their order, and the state of
the dice after them. -/
def Dice.rolls (dice : Dice γ) (size : Nat) : Nat → γ → List Nat × γ
  | 0, generator => ([], generator)
  | later + 1, generator =>
    let (numbers, state) := dice.rolls size later generator
    let (number, state) := dice.roll (size + later + 1) state
    (numbers ++ [number], state)

/-- The position of the last item that rolled a slot, or the slot's own if none did. Slots and
positions count from one. -/
inductive Lasts (size : Nat) (numbers : List Nat) (slot : Nat) : Nat → Prop
  | own (unnamed : slot ∉ numbers) : Lasts size numbers slot slot
  | rolled {before after : List Nat} (split : numbers = before ++ slot :: after)
      (last : slot ∉ after) : Lasts size numbers slot (size + before.length + 1)

namespace Lasts

variable {size slot position number : Nat} {numbers : List Nat}

theorem newest (size : Nat) (numbers : List Nat) (slot : Nat) :
    Lasts size (numbers ++ [slot]) slot (size + numbers.length + 1) :=
  .rolled rfl List.not_mem_nil

theorem concat (lasts : Lasts size numbers slot position) (other : slot ≠ number) :
    Lasts size (numbers ++ [number]) slot position := by
  cases lasts with
  | own unnamed => exact .own (by simp [unnamed, other])
  | @rolled before after split last =>
    have longer : numbers ++ [number] = before ++ slot :: (after ++ [number]) := by simp [split]
    exact .rolled longer (by simp [last, other])

end Lasts

section Rolls

variable {dice : Dice γ} {size : Nat} {generator : γ}

theorem rolls_succ {later number : Nat} {state : γ}
    (rolled : dice.roll (size + later + 1) (dice.rolls size later generator).2 = (number, state)) :
    dice.rolls size (later + 1) generator =
      ((dice.rolls size later generator).1 ++ [number], state) := by
  simp only [Dice.rolls, rolled]

theorem length_rolls (later : Nat) : (dice.rolls size later generator).1.length = later := by
  induction later with
  | zero => rfl
  | succ later ih => simp [Dice.rolls, ih]

theorem rolls_inRange (inRange : dice.InRange) (later : Nat) :
    ∀ i (inside : i < (dice.rolls size later generator).1.length),
      1 ≤ (dice.rolls size later generator).1[i] ∧
        (dice.rolls size later generator).1[i] ≤ size + i + 1 := by
  induction later with
  | zero => exact fun i inside => absurd inside (Nat.not_lt_zero i)
  | succ later ih =>
    intro i inside
    simp only [Dice.rolls, List.length_append, List.length_singleton] at inside ⊢
    rcases Nat.lt_succ_iff_lt_or_eq.mp inside with earlier | rfl
    · rw [List.getElem_append_left earlier]
      exact ih i earlier
    · simpa [length_rolls] using inRange _ (dice.rolls size later generator).2 (Nat.succ_pos _)

end Rolls

namespace Reservoir

variable (dice : Dice γ) (size : Nat) (generator : γ)

theorem dice_filled (items : List α) :
    (filled dice size generator items).dice =
      (dice.rolls size (items.length - size) generator).2 := by
  induction items using List.reverseRecOn with
  | nil => simp [filled, start, Dice.rolls]
  | append_singleton items item ih =>
    rw [List.length_append, List.length_singleton]
    rcases Nat.lt_or_ge items.length size with free | full
    · have none : items.length + 1 - size = 0 := by omega
      rw [filled_concat_early dice generator free, ih, none,
        Nat.sub_eq_zero_of_le (Nat.le_of_lt free)]
    · have one : items.length + 1 - size = (items.length - size) + 1 := by omega
      have sides : size + (items.length - size) + 1 = items.length + 1 := by omega
      rw [filled_concat_late dice generator full, rolledAfter, ih, one]
      simp only [Dice.rolls, sides]

theorem place_map (f : α → β) (rolled : Nat) (item : α) (slots : List α) :
    place size rolled (f item) (slots.map f) = (place size rolled item slots).map f := by
  unfold place
  split <;> simp

theorem getElem?_place {size rolled i : Nat} {slots : List α} (full : slots.length = size)
    (positive : 1 ≤ rolled) (inside : i < size) (item : α) :
    (place size rolled item slots)[i]? = if rolled = i + 1 then some item else slots[i]? := by
  unfold place
  split
  case isTrue within =>
    rw [List.getElem?_set]
    by_cases named : rolled = i + 1
    · simp [named, full, inside]
    · have other : rolled - 1 ≠ i := by omega
      simp [named, other]
  case isFalse beyond => rw [if_neg (by omega)]

theorem slots_filled_map (f : α → β) (items : List α) :
    (filled dice size generator (items.map f)).slots =
      (filled dice size generator items).slots.map f := by
  induction items using List.reverseRecOn with
  | nil => rfl
  | append_singleton items item ih =>
    rw [List.map_append, List.map_singleton]
    have length : (items.map f).length = items.length := List.length_map f
    rcases Nat.lt_or_ge items.length size with free | full
    · rw [filled_concat_early dice generator (length ▸ free),
        filled_concat_early dice generator free, ih, List.map_append, List.map_singleton]
    · rw [filled_concat_late dice generator (length ▸ full),
        filled_concat_late dice generator full, ih, ← place_map, rolledAfter, rolledAfter,
        dice_filled, dice_filled, length]

/-- The positions of the items in the slots, after so many items. -/
def positions (count : Nat) : List Nat := (filled dice size generator (List.range' 1 count)).slots

theorem slots_filled_eq (items : List α) :
    (filled dice size generator items).slots.map some =
      (positions dice size generator items.length).map fun position => items[position - 1]? := by
  have named : (List.range' 1 items.length).map (fun position => items[position - 1]?) =
      items.map some := by
    apply List.ext_getElem (by simp)
    intro i inside _
    rw [List.length_map, List.length_range'] at inside
    simp [inside]
  rw [positions, ← slots_filled_map, ← slots_filled_map, named]

theorem positions_of_le {count : Nat} (few : count ≤ size) :
    positions dice size generator count = List.range' 1 count := by
  rw [positions, filled_of_le dice generator (by simpa using few)]

theorem length_positions (count : Nat) :
    (positions dice size generator count).length = min count size := by
  rcases Nat.le_total count size with few | full
  · rw [positions_of_le dice size generator few, List.length_range', Nat.min_eq_left few]
  · rw [positions, length_slots_filled dice generator (by simpa using full), Nat.min_eq_right full]

theorem nodup_positions (count : Nat) : (positions dice size generator count).Nodup :=
  nodup_slots_filled dice generator List.nodup_range'

theorem mem_positions {count position : Nat}
    (member : position ∈ positions dice size generator count) :
    1 ≤ position ∧ position ≤ count := by
  have listed := mem_of_mem_slots_filled dice generator member
  simp at listed
  omega

variable {dice size generator} {numbers : List Nat}

theorem positions_succ {later number : Nat} {state : γ}
    (rolled : dice.roll (size + later + 1) (dice.rolls size later generator).2 = (number, state)) :
    positions dice size generator (size + later + 1) =
      place size number (size + later + 1) (positions dice size generator (size + later)) := by
  have full : size ≤ (List.range' 1 (size + later)).length := by simp
  have after : rolledAfter dice size generator (List.range' 1 (size + later)) =
      (number, state) := by
    rw [rolledAfter, dice_filled, List.length_range', Nat.add_sub_cancel_left, rolled]
  have newest : 1 + 1 * (size + later) = size + later + 1 := by omega
  rw [positions, List.range'_concat, filled_concat_late dice generator full, after, newest]
  rfl

theorem positions_own {count i position : Nat} (few : count ≤ size)
    (held : (positions dice size generator count)[i]? = some position) (unnamed : i + 1 ∉ numbers) :
    Lasts size numbers (i + 1) position := by
  rw [positions_of_le dice size generator few] at held
  obtain ⟨inside, rfl⟩ := List.getElem?_eq_some_iff.mp held
  rw [List.getElem_range', Nat.one_mul, Nat.add_comm 1]
  exact .own unnamed

theorem positions_late (inRange : dice.InRange) (later : Nat) {i position : Nat}
    (held : (positions dice size generator (size + later))[i]? = some position) :
    Lasts size (dice.rolls size later generator).1 (i + 1) position := by
  induction later generalizing position with
  | zero => exact positions_own (Nat.le_refl size) held List.not_mem_nil
  | succ later ih =>
    rcases rolled : dice.roll (size + later + 1) (dice.rolls size later generator).2 with
      ⟨number, state⟩
    have slots : (positions dice size generator (size + later)).length = size := by
      rw [length_positions, Nat.min_eq_right (Nat.le_add_right size later)]
    have positive := (inRange (size + later + 1) (dice.rolls size later generator).2
      (Nat.succ_pos _)).1
    rw [rolled] at positive
    rw [← Nat.add_assoc, positions_succ rolled] at held
    obtain ⟨inside, -⟩ := List.getElem?_eq_some_iff.mp held
    rw [length_place, slots] at inside
    rw [getElem?_place slots positive inside] at held
    rw [rolls_succ rolled]
    -- The newest item goes to the slot that it rolled, and to no other.
    by_cases named : number = i + 1
    · subst named
      cases (if_pos rfl).symm.trans held
      have newest := Lasts.newest size (dice.rolls size later generator).1 (i + 1)
      rwa [length_rolls] at newest
    · rw [if_neg named] at held
      exact (ih held).concat (Ne.symm named)

theorem positions_last (inRange : dice.InRange) {count i position : Nat}
    (held : (positions dice size generator count)[i]? = some position) :
    Lasts size (dice.rolls size (count - size) generator).1 (i + 1) position := by
  rcases Nat.le_total count size with few | full
  · apply positions_own few held
    rw [Nat.sub_eq_zero_of_le few]
    exact List.not_mem_nil
  · obtain ⟨later, rfl⟩ := Nat.exists_eq_add_of_le full
    rw [Nat.add_sub_cancel_left]
    exact positions_late inRange later held

end Reservoir

/-- What sampling makes of these items: the slots hold the items at these positions. -/
structure Sampled (dice : Dice γ) (size : Nat) (generator : γ) (items slots : List α)
    (numbers positions : List Nat) : Prop where
  rolled : numbers = (dice.rolls size (items.length - size) generator).1
  rolls : numbers.length = items.length - size
  inRange : ∀ i (inside : i < numbers.length), 1 ≤ numbers[i] ∧ numbers[i] ≤ size + i + 1
  length : slots.length = min items.length size
  held : slots.map some = positions.map fun position => items[position - 1]?
  last : ∀ i (inside : i < positions.length), Lasts size numbers (i + 1) positions[i]
  distinct : positions.Nodup
  among : ∀ position ∈ positions, 1 ≤ position ∧ position ≤ items.length
  /-- A number that names a slot names one that there is when it is rolled. -/
  present : ∀ i (inside : i < numbers.length), numbers[i] ≤ size →
    numbers[i] - 1 < (Reservoir.filled dice size generator (items.take (size + i))).slots.length

theorem sampled_filled {dice : Dice γ} (inRange : dice.InRange) (size : Nat) (generator : γ)
    (items : List α) :
    Sampled dice size generator items (Reservoir.filled dice size generator items).slots
      (dice.rolls size (items.length - size) generator).1
      (Reservoir.positions dice size generator items.length) where
  rolled := rfl
  rolls := length_rolls _
  inRange := rolls_inRange inRange _
  length := by
    have same := congrArg List.length (Reservoir.slots_filled_eq dice size generator items)
    rwa [List.length_map, List.length_map, Reservoir.length_positions] at same
  held := Reservoir.slots_filled_eq dice size generator items
  last _ inside := Reservoir.positions_last inRange (List.getElem?_eq_getElem inside)
  distinct := Reservoir.nodup_positions dice size generator items.length
  among _ member := Reservoir.mem_positions dice size generator member
  present i inside within := by
    have positive := (rolls_inRange inRange _ i inside).1
    rw [length_rolls] at inside
    have full : size ≤ (items.take (size + i)).length := by
      rw [List.length_take]
      omega
    rw [Reservoir.length_slots_filled dice generator full]
    omega

/-- Where there is room for the slots, as many items are read as the population has, or fewer if the
source has fewer, and none after them. A number is rolled for each of them but the first `size`,
whatever the items are. Where there is no room nothing is read or rolled. -/
theorem sample_holds [Memory] {dice : Dice γ} (inRange : dice.InRange) (source : Source ς Empty α)
    (population size : Nat) (generator : γ) (state : ς) :
    sample dice source population 0 generator state = (.ok [], generator, state) ∧
    (0 < size → min size population ≤ Memory.room → ∃ items next last slots numbers positions,
      source.Gives state items next ∧
      (items.length = population ∧ last = next ∨
        items.length < population ∧ source.next next = (none, last)) ∧
      sample dice source population size generator state =
        (.ok slots, (dice.rolls size (items.length - size) generator).2, last) ∧
      Sampled dice size generator items slots numbers positions) ∧
    (Memory.room < min size population →
      sample dice source population size generator state = (.error .noRoom, generator, state)) := by
  refine ⟨sample_zero .., fun positive room => ?_, fun noRoom => sample_of_noRoom dice noRoom _ _⟩
  obtain ⟨items, failure, last, reads⟩ := source.reads_exists population state
  obtain ⟨next, gives, ending⟩ := reads.gives
  have sampled := sample_of_reads dice positive room generator reads
  cases failure with
  | some error => cases error
  | none =>
    rw [Reservoir.dice_filled] at sampled
    refine ⟨items, next, last, _, _, _, gives, ?_, sampled, sampled_filled inRange size _ items⟩
    exact ending.imp_left fun full => ⟨full.1, full.2.2⟩

/-- The source has no end, and four of its items are read. -/
theorem sample_holds_counting :
    let counting : Source Nat Empty Nat := ⟨fun state => (some (.ok state), state + 1)⟩
    sample seededDice counting 4 0 (.ofSeed 7) 0 = (.ok [], .ofSeed 7, 0) ∧
    ∃ items last slots numbers positions, items.length = 4 ∧ counting.Gives 0 items last ∧
      sample seededDice counting 4 2 (.ofSeed 7) 0 =
        (.ok slots, (seededDice.rolls 2 2 (.ofSeed 7)).2, last) ∧
      Sampled seededDice 2 (.ofSeed 7) items slots numbers positions := by
  intro counting
  obtain ⟨-, samples, -⟩ := sample_holds seededDice_inRange counting 4 2 (.ofSeed 7) 0
  obtain ⟨items, next, last, slots, numbers, positions, gives, ending, ran, sampled⟩ :=
    samples Nat.two_pos (by decide)
  have none := (sample_holds seededDice_inRange counting 4 0 (.ofSeed 7) 0).1
  rcases ending with ⟨four, rfl⟩ | ⟨-, ended⟩
  · rw [four] at ran
    exact ⟨none, items, last, slots, numbers, positions, four, gives, ran, sampled⟩
  · cases ended

/-- Only eight items are there, but there is no room for as many as were asked for. -/
theorem sample_eight_of_noRoom :
    let items : List (Except Empty Nat) := (List.range 8).map .ok
    let sampled :=
      sample seededDice .ofList (Nat.pow 2 64 - 1) (Nat.pow 2 64 - 1) (.ofSeed 7) items
    sampled = (.error .noRoom, .ofSeed 7, items) ∧
      ¬ ∃ slots after, sampled = (.ok slots, after) := by
  intro items sampled
  have halted : sampled = (.error .noRoom, .ofSeed 7, items) :=
    sample_of_noRoom seededDice (by decide) _ _
  refine ⟨halted, ?_⟩
  rintro ⟨slots, after, held⟩
  cases halted.symm.trans held

end VisibleFacets
