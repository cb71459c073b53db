import Mathlib.Data.List.Basic
import VisibleFacets.Text.Natural

/-!
# Digits of a number

A number is written with the digits that spell it (`exists_spells`), and with no zero before them.
-/

namespace VisibleFacets.Text

/-- These are the decimal digits of the number, the leading one first. -/
structure Spells (digits : List Nat) (value : Nat) : Prop where
  small : ∀ digit ∈ digits, digit < 10
  value : digits.foldl (fun value digit => value * 10 + digit) 0 = value
  nonempty : digits ≠ []
  leading : digits.head? = some 0 → digits = [0]

theorem digitValue?_digitChar {digit : Nat} (small : digit < 10) :
    digitValue? digit.digitChar = some digit := by
  have all : ∀ digit < 10, digitValue? digit.digitChar = some digit := by decide
  exact all digit small

theorem digitChar_ne_zero {digit : Nat} (small : digit < 10) (positive : 0 < digit) :
    digit.digitChar ≠ '0' := by
  have all : ∀ digit < 10, 0 < digit → digit.digitChar ≠ '0' := by decide
  exact all digit small positive

theorem Spells.single {digit : Nat} (small : digit < 10) : Spells [digit] digit where
  small := by simpa using small
  value := by simp
  nonempty := List.cons_ne_nil _ _
  leading zero := by simpa using zero

theorem Spells.concat {digits : List Nat} {value digit : Nat} (spells : Spells digits value)
    (positive : 0 < value) (small : digit < 10) :
    Spells (digits ++ [digit]) (value * 10 + digit) where
  small other member := by
    rcases List.mem_append.mp member with before | last
    · exact spells.small other before
    · obtain rfl := List.mem_singleton.mp last
      exact small
  value := by simp [List.foldl_append, spells.value]
  nonempty := by simp
  leading zero := by
    rw [List.head?_append_of_ne_nil _ spells.nonempty] at zero
    have none := spells.value
    rw [spells.leading zero] at none
    simp at none
    omega

theorem exists_spells (value : Nat) :
    ∃ digits, Spells digits value ∧ showNatural value = digits.map Nat.digitChar := by
  induction value using Nat.strongRecOn with
  | ind value ih =>
    rcases Nat.lt_or_ge value 10 with small | large
    · exact ⟨[value], .single small, Nat.toDigits_of_lt_base small⟩
    · obtain ⟨digits, spells, written⟩ := ih (value / 10) (by omega)
      have more := spells.concat (by omega) (Nat.mod_lt value (by decide : 0 < 10))
      have whole : value / 10 * 10 + value % 10 = value := by omega
      rw [whole] at more
      refine ⟨_, more, ?_⟩
      rw [showNatural, Nat.toDigits_of_base_le (by decide) large, List.map_append, ← written]
      rfl

end VisibleFacets.Text
