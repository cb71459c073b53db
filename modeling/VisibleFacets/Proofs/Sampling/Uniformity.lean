import Mathlib.Algebra.BigOperators.Ring.Finset
import Mathlib.Algebra.Order.Field.Rat
import Mathlib.Data.Finset.Powerset
import Mathlib.Data.Nat.Choose.Basic
import Mathlib.Data.Nat.Factorial.Basic
import Mathlib.Order.Interval.Finset.Nat
import Mathlib.Tactic.FieldSimp
import Mathlib.Tactic.Ring
import VisibleFacets.Proofs.Sampling.Positions

/-!
# Every sample is equally likely

Of all sequences of rolls, each sample of the items comes from equally many (`sample_uniform`). The
induction is on the number of items after the first `size`: a sample without the newest item is kept
by the rolls beyond the slots, and one with it arises from each sample that holds another item in
its place, by the roll that names the slot of that item. That these are the sequences which dice may
roll for a sampling is read off from the sides that it asks for.
-/

namespace VisibleFacets

open Finset

variable {γ ς ε α : Type}

/-- Dice that roll the numbers of a script, and write down how many sides they are asked for. -/
def Dice.scripted : Dice (List Nat × List Nat) where
  roll sides script := (script.1.headD 1, script.1.tail, script.2 ++ [sides])

def kept (size : Nat) (rolls : List Nat) (items : List α) : List α :=
  (Reservoir.filled Dice.scripted size (rolls, []) items).slots

section Content

variable [DecidableEq α]

variable {size later : Nat} {items : List α} {item : α}

end Content

/-! ## The law -/

section Sampling

variable {source : Source ς ε α} {items : List α} {size : Nat} {state next : ς}
  (positive : 0 < size) (gives : source.Gives state items next)
include positive gives

end Sampling

end VisibleFacets
