import VisibleFacets.Sampling.Keystream

/-!
# Numbers that dice roll

Seeded dice show each of their sides and nothing else (`seededDice_inRange`).
-/

namespace VisibleFacets

variable {γ : Type}

def Dice.InRange (dice : Dice γ) : Prop :=
  ∀ sides generator, 0 < sides →
    1 ≤ (dice.roll sides generator).1 ∧ (dice.roll sides generator).1 ≤ sides

theorem Key.word_lt (key : Key) (position : Nat) : key.word position < wordRange := by
  have low := ((key.block (position / 8)).getD (2 * (position % 8)) 0).toNat_lt
  have high := ((key.block (position / 8)).getD (2 * (position % 8) + 1) 0).toNat_lt
  have half : halfRange = 4294967296 := rfl
  have whole : wordRange = 18446744073709551616 := rfl
  simp only [Key.word, half, whole]
  omega

theorem Generator.search_inRange (key : Key) {sides : Nat} (positive : 0 < sides)
    (fuel position : Nat) :
    1 ≤ (search key sides fuel position).1 ∧ (search key sides fuel position).1 ≤ sides := by
  induction fuel generalizing position with
  | zero => exact ⟨Nat.le_refl 1, positive⟩
  | succ fuel ih =>
    simp only [search]
    split
    · have below : key.word position * sides / wordRange < sides :=
        Nat.div_lt_of_lt_mul (Nat.mul_lt_mul_of_pos_right (key.word_lt position) positive)
      exact ⟨Nat.succ_le_succ (Nat.zero_le _), below⟩
    · exact ih (position + 1)

theorem seededDice_inRange : seededDice.InRange := fun _ generator positive =>
  Generator.search_inRange generator.key positive Generator.period generator.position

end VisibleFacets
