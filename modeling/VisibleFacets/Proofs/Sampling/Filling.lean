import Mathlib.Data.List.Induction
import Mathlib.Data.List.Nodup
import VisibleFacets.Proofs.Sampling.Reading
import VisibleFacets.Sampling.Keystream

/-!
# What a reservoir holds

The lemmas on `Reservoir.filled` say what its slots hold after every item, and
`length_le_of_sample` that there are never too many.
-/

namespace VisibleFacets

variable {γ ς ε α : Type}

namespace Reservoir

@[simp] theorem length_place (size rolled : Nat) (item : α) (slots : List α) :
    (place size rolled item slots).length = slots.length := by
  unfold place
  split <;> simp

theorem mem_or_eq_of_mem_place {size rolled : Nat} {item kept : α} {slots : List α}
    (member : kept ∈ place size rolled item slots) : kept ∈ slots ∨ kept = item := by
  unfold place at member
  split at member
  · exact List.mem_or_eq_of_mem_set member
  · exact .inl member

theorem nodup_place {size rolled : Nat} {item : α} {slots : List α} (distinct : slots.Nodup)
    (fresh : item ∉ slots) : (place size rolled item slots).Nodup := by
  unfold place
  split
  · exact distinct.set fresh
  · exact distinct

def filled (dice : Dice γ) (size : Nat) (generator : γ) (items : List α) : Reservoir γ α :=
  items.foldl (fun reservoir item => reservoir.add dice size item) (.start generator)

variable (dice : Dice γ) (size : Nat) (generator : γ)

theorem filled_concat (items : List α) (item : α) :
    filled dice size generator (items ++ [item]) =
      (filled dice size generator items).add dice size item := by
  simp [filled]

theorem seen_filled (items : List α) : (filled dice size generator items).seen = items.length := by
  induction items using List.reverseRecOn with
  | nil => rfl
  | append_singleton items item ih =>
    rw [filled_concat, List.length_append, List.length_singleton, ← ih]
    simp only [add]
    split <;> rfl

def rolledAfter (items : List α) : Nat × γ :=
  dice.roll (items.length + 1) (filled dice size generator items).dice

variable {size}

theorem filled_concat_early {items : List α} (free : items.length < size) (item : α) :
    filled dice size generator (items ++ [item]) =
      { filled dice size generator items with
        slots := (filled dice size generator items).slots ++ [item]
        seen := items.length + 1 } := by
  rw [filled_concat, add]
  simp only [seen_filled]
  rw [if_pos (Nat.succ_le_of_lt free)]

theorem filled_concat_late {items : List α} (full : size ≤ items.length) (item : α) :
    filled dice size generator (items ++ [item]) =
      { slots := place size (rolledAfter dice size generator items).1 item
          (filled dice size generator items).slots
        seen := items.length + 1
        dice := (rolledAfter dice size generator items).2 } := by
  rw [filled_concat, add]
  simp only [seen_filled]
  rw [if_neg (by omega)]
  rfl

theorem filled_of_le {items : List α} (few : items.length ≤ size) :
    filled dice size generator items = ⟨items, items.length, generator⟩ := by
  induction items using List.reverseRecOn with
  | nil => rfl
  | append_singleton items item ih =>
    rw [List.length_append, List.length_singleton] at few
    rw [filled_concat_early dice generator few, ih (by omega)]
    simp

theorem length_slots_filled {items : List α} (full : size ≤ items.length) :
    (filled dice size generator items).slots.length = size := by
  induction items using List.reverseRecOn with
  | nil => exact (Nat.le_zero.mp full).symm
  | append_singleton items item ih =>
    rw [List.length_append, List.length_singleton] at full
    rcases Nat.lt_or_ge items.length size with free | taken
    · rw [filled_concat_early dice generator free, filled_of_le dice generator (Nat.le_of_lt free),
        List.length_append, List.length_singleton]
      show items.length + 1 = size
      omega
    · rw [filled_concat_late dice generator taken, length_place, ih taken]

theorem mem_of_mem_slots_filled {items : List α} {item : α}
    (kept : item ∈ (filled dice size generator items).slots) : item ∈ items := by
  induction items using List.reverseRecOn with
  | nil => exact kept
  | append_singleton items newest ih =>
    rw [List.mem_append, List.mem_singleton]
    rcases Nat.lt_or_ge items.length size with free | taken
    · rw [filled_concat_early dice generator free, List.mem_append, List.mem_singleton] at kept
      exact kept.imp_left ih
    · rw [filled_concat_late dice generator taken] at kept
      exact (mem_or_eq_of_mem_place kept).imp_left ih

theorem nodup_slots_filled {items : List α} (distinct : items.Nodup) :
    (filled dice size generator items).slots.Nodup := by
  induction items using List.reverseRecOn with
  | nil => exact .nil
  | append_singleton items newest ih =>
    obtain ⟨older, -, apart⟩ := List.nodup_append.mp distinct
    have fresh : newest ∉ (filled dice size generator items).slots := fun kept =>
      apart _ (mem_of_mem_slots_filled dice generator kept) _ (List.mem_singleton_self _) rfl
    rcases Nat.lt_or_ge items.length size with free | taken
    · rw [filled_concat_early dice generator free]
      exact List.concat_eq_append ▸ (ih older).concat fresh
    · rw [filled_concat_late dice generator taken]
      exact nodup_place (ih older) fresh

/-- It never has more slots than it has seen items, nor more than it may have. -/
def Fits (size : Nat) (reservoir : Reservoir γ α) : Prop :=
  reservoir.slots.length ≤ reservoir.seen ∧ reservoir.slots.length ≤ size

theorem Fits.add {reservoir : Reservoir γ α} (fits : reservoir.Fits size) (item : α) :
    (reservoir.add dice size item).Fits size := by
  obtain ⟨seen, within⟩ := fits
  rw [Fits, Reservoir.add]
  by_cases free : reservoir.seen + 1 ≤ size
  · simp only [if_pos free, List.length_append, List.length_singleton]
    omega
  · simp only [if_neg free, length_place]
    omega

end Reservoir

/-- Whatever a source gives or claims. -/
theorem length_le_of_sample [Memory] {dice : Dice γ} {source : Source ς ε α} {population size : Nat}
    {generator : γ} {state : ς} {items : List α} {after : γ × ς}
    (sampled : sample dice source population size generator state = (.ok items, after)) :
    items.length ≤ size := by
  rw [sample] at sampled
  split_ifs at sampled
  · cases sampled
  · cases sampled
    exact Nat.zero_le _
  · have start : (Reservoir.start generator : Reservoir γ α).Fits size :=
      ⟨Nat.zero_le _, Nat.zero_le _⟩
    have fits : Reservoir.Fits size (source.fold
        (fun item (reservoir : Reservoir γ α) => (.ok (), reservoir.add dice size item))
        population (.start generator) state).2.1 :=
      Source.fold_invariant (fun item _ fits => fits.add dice item) population start state
    rcases read : source.fold
        (fun item (reservoir : Reservoir γ α) => (.ok (), reservoir.add dice size item))
        population (.start generator) state with ⟨_ | _, reservoir, last⟩
    · simp only [read] at sampled
      cases sampled
    · simp only [read] at sampled fits
      cases sampled
      exact fits.2

end VisibleFacets
