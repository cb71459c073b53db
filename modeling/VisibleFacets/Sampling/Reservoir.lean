import VisibleFacets.Sampling.Source

/-!
# Reservoir sampling

The first items fill the slots. Every later item rolls a number up to its own position; a number
that names a slot puts the item there. With fair dice every item is kept with the same probability.
Room for the slots is made before the first item is read, and there may be none. Main definitions:
`Memory`, `Reservoir.add`, `sample`.
-/

namespace VisibleFacets

/-- The most items for which there is room at once. -/
class Memory where
  room : Nat

/-- Less than 2^63 bytes can be asked for at once, and a hit takes 104 of them. -/
instance Memory.addressable : Memory := ⟨(Nat.pow 2 63 - 1) / 104⟩

/-- What ends a sampling without a sample: a failure of the source, or no room for the slots. -/
inductive Halt (ε : Type) where
  | failed (error : ε)
  | noRoom
  deriving DecidableEq, Repr

/-- Rolls a number from 1 to `sides`. -/
structure Dice (γ : Type) where
  roll : (sides : Nat) → γ → Nat × γ

structure Reservoir (γ α : Type) where
  slots : List α
  seen : Nat
  dice : γ
  deriving DecidableEq, Repr

namespace Reservoir

variable {γ α : Type}

def start (dice : γ) : Reservoir γ α := ⟨[], 0, dice⟩

def place (size rolled : Nat) (item : α) (slots : List α) : List α :=
  if rolled ≤ size then slots.set (rolled - 1) item else slots

/-- Takes the next item into a reservoir of `size` slots; dice are rolled only once it is full. -/
def add (dice : Dice γ) (size : Nat) (item : α) (reservoir : Reservoir γ α) : Reservoir γ α :=
  let position := reservoir.seen + 1
  if position ≤ size then
    { reservoir with slots := reservoir.slots ++ [item], seen := position }
  else
    let (rolled, state) := dice.roll position reservoir.dice
    { slots := place size rolled item reservoir.slots
      seen := position
      dice := state }

end Reservoir

/-- Samples `size` of the first `population` items of a source, if there is room for as many slots
as these may fill. The first failure among the items ends the sampling; without slots nothing is
read. -/
def sample [Memory] {γ ς ε α : Type} (dice : Dice γ) (source : Source ς ε α)
    (population size : Nat) (generator : γ) (state : ς) : Except (Halt ε) (List α) × γ × ς :=
  if Memory.room < min size population then (.error .noRoom, generator, state)
  else if size = 0 then (.ok [], generator, state)
  else
    let step (item : α) (reservoir : Reservoir γ α) := (.ok (), reservoir.add dice size item)
    let (outcome, reservoir, state) := source.fold step population (.start generator) state
    ((outcome.map fun _ => reservoir.slots).mapError .failed, reservoir.dice, state)

end VisibleFacets
