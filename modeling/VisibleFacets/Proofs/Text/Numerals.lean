import VisibleFacets.Proofs.Text.Natural
import VisibleFacets.Proofs.Text.Words

/-!
# Texts that denote a number

A number is read from the texts that write it and from no others (`readNatural_eq_ok_iff`), and with
the blanks trimmed from those that denote it (`readNatural_trim_eq_ok_iff`).
-/

namespace VisibleFacets.Text

/-- A plus sign or none, any number of zeros, and the number in decimal. -/
inductive Writes (value : Nat) : List Char → Prop
  | plain (zeros : Nat) : Writes value (List.replicate zeros '0' ++ showNatural value)
  | signed (zeros : Nat) : Writes value ('+' :: (List.replicate zeros '0' ++ showNatural value))

/-- Apart from blanks around it, the text is a written number that fits in a word. -/
def Denotes (text : List Char) (value : Nat) : Prop :=
  value ≤ maxWord ∧ ∃ numeral, Writes value numeral ∧ Spaced [numeral] text

theorem digitValue?_eq_some_iff {c : Char} {digit : Nat} :
    digitValue? c = some digit ↔ digit < 10 ∧ c = digit.digitChar := by
  constructor
  · intro read
    unfold digitValue? at read
    split at read
    case isTrue within =>
      obtain ⟨low, high⟩ : 48 ≤ c.toNat ∧ c.toNat ≤ 57 := within
      obtain rfl : c.toNat - 48 = digit := Option.some.inj read
      refine ⟨by omega, Char.toNat_inj.mp ?_⟩
      rw [Nat.toNat_digitChar_of_lt_ten (by omega)]
      omega
    case isFalse => cases read
  · rintro ⟨small, rfl⟩
    exact digitValue?_digitChar small

/-! ## Digits -/

section Digits

variable {bound start digit value : Nat} {text rest : List Char}

theorem readDigits_digit (small : digit < 10) (fits : start * 10 + digit ≤ bound) :
    readDigits bound start (digit.digitChar :: rest) =
      readDigits bound (start * 10 + digit) rest := by
  simp only [readDigits, digitValue?_digitChar small]
  rw [if_neg (Nat.not_lt.mpr fits)]

theorem readDigits_cons_ok {c : Char} (read : readDigits bound start (c :: rest) = .ok value) :
    ∃ digit < 10, c = digit.digitChar ∧ start * 10 + digit ≤ bound ∧
      readDigits bound (start * 10 + digit) rest = .ok value := by
  rw [readDigits] at read
  split at read
  · cases read
  · rename_i digit found
    obtain ⟨small, rfl⟩ := digitValue?_eq_some_iff.mp found
    split at read
    · cases read
    · rename_i fits
      exact ⟨digit, small, rfl, Nat.not_lt.mp fits, read⟩

theorem showNatural_digit (positive : 0 < start) (small : digit < 10) :
    showNatural (start * 10 + digit) = showNatural start ++ [digit.digitChar] := by
  rw [showNatural, showNatural, Nat.mul_comm,
    ← Nat.toDigits_append_toDigits (by decide) positive small, Nat.toDigits_of_lt_base small]

theorem readDigits_le (within : start ≤ bound) (read : readDigits bound start text = .ok value) :
    value ≤ bound := by
  induction text generalizing start with
  | nil =>
    cases read
    exact within
  | cons c rest ih =>
    obtain ⟨digit, -, -, fits, read⟩ := readDigits_cons_ok read
    exact ih fits read

theorem showNatural_of_readDigits (positive : 0 < start)
    (read : readDigits bound start text = .ok value) :
    showNatural start ++ text = showNatural value := by
  induction text generalizing start with
  | nil =>
    cases read
    exact List.append_nil _
  | cons c rest ih =>
    obtain ⟨digit, small, rfl, -, read⟩ := readDigits_cons_ok read
    have further := ih (by omega) read
    rwa [showNatural_digit positive small, List.append_assoc] at further

/-- Zeros in front leave nothing behind, and the first other digit starts the number. -/
theorem zeros_of_readDigits (nonempty : text ≠ []) (read : readDigits bound 0 text = .ok value) :
    ∃ zeros, text = List.replicate zeros '0' ++ showNatural value := by
  induction text with
  | nil => exact absurd rfl nonempty
  | cons c rest ih =>
    obtain ⟨digit, small, rfl, -, read⟩ := readDigits_cons_ok read
    rw [Nat.zero_mul, Nat.zero_add] at read
    rcases Nat.eq_zero_or_pos digit with rfl | positive
    · cases rest with
      | nil =>
        cases read
        exact ⟨0, rfl⟩
      | cons next rest =>
        obtain ⟨zeros, same⟩ := ih (List.cons_ne_nil _ _) read
        exact ⟨zeros + 1, by rw [same]; rfl⟩
    · have whole := showNatural_of_readDigits positive read
      rw [showNatural, Nat.toDigits_of_lt_base small] at whole
      exact ⟨0, whole⟩

theorem readDigits_zeros (zeros : Nat) (text : List Char) :
    readDigits bound 0 (List.replicate zeros '0' ++ text) = readDigits bound 0 text := by
  induction zeros with
  | zero => rfl
  | succ zeros ih =>
    rw [← ih]
    exact readDigits_digit (by decide : 0 < 10) (Nat.zero_le bound : 0 * 10 + 0 ≤ bound)

theorem readDigits_append (bound start : Nat) (text rest : List Char) :
    readDigits bound start (text ++ rest) =
      (readDigits bound start text).bind fun value => readDigits bound value rest := by
  induction text generalizing start with
  | nil => rfl
  | cons c text ih =>
    rw [List.cons_append, readDigits, readDigits]
    split
    · rfl
    · split
      · rfl
      · exact ih _

theorem readDigits_showNatural (fits : value ≤ bound) :
    readDigits bound 0 (showNatural value) = .ok value := by
  induction value using Nat.strongRecOn with
  | ind value ih =>
    rcases Nat.lt_or_ge value 10 with small | large
    · rw [showNatural, Nat.toDigits_of_lt_base small, readDigits_digit small (by omega)]
      simp [readDigits]
    · have shorter := ih (value / 10) (by omega) (by omega)
      have last : value % 10 < 10 := Nat.mod_lt value (by decide)
      have whole : value / 10 * 10 + value % 10 = value := by omega
      rw [← whole, showNatural_digit (by omega) last, readDigits_append, shorter]
      exact (readDigits_digit last (by omega)).trans rfl

end Digits

/-! ## Numbers -/

theorem showNatural_ne_nil (value : Nat) : showNatural value ≠ [] := by
  obtain ⟨digits, spells, written⟩ := exists_spells value
  rw [written]
  exact mt List.map_eq_nil_iff.mp spells.nonempty

section Numbers

variable {bound value : Nat} {text : List Char}

theorem Writes.ne_nil (writes : Writes value text) : text ≠ [] := by
  cases writes with
  | plain zeros => exact List.append_ne_nil_of_right_ne_nil _ (showNatural_ne_nil value)
  | signed => exact List.cons_ne_nil _ _

theorem isBlank_of_mem_showNatural {c : Char} (member : c ∈ showNatural value) :
    isBlank c = false := by
  obtain ⟨digits, spells, written⟩ := exists_spells value
  rw [written] at member
  obtain ⟨digit, listed, rfl⟩ := List.mem_map.mp member
  have shown : ∀ digit < 10, isBlank digit.digitChar = false := by decide
  exact shown digit (spells.small digit listed)

theorem Writes.shown (writes : Writes value text) : ∀ c ∈ text, isBlank c = false := by
  have unsigned (zeros : Nat) :
      ∀ c ∈ List.replicate zeros '0' ++ showNatural value, isBlank c = false := by
    intro c member
    rcases List.mem_append.mp member with zero | digit
    · obtain rfl := List.eq_of_mem_replicate zero
      decide
    · exact isBlank_of_mem_showNatural digit
  cases writes with
  | plain zeros => exact unsigned zeros
  | signed zeros => exact List.forall_mem_cons.mpr ⟨by decide, unsigned zeros⟩

theorem readNatural_signed (nonempty : text ≠ []) :
    readNatural bound ('+' :: text) = readDigits bound 0 text := by
  cases text with
  | nil => exact absurd rfl nonempty
  | cons c rest => rfl

theorem readNatural_unsigned {c : Char} (unsigned : c ≠ '+') (rest : List Char) :
    readNatural bound (c :: rest) = readDigits bound 0 (c :: rest) := by
  unfold readNatural
  split <;> simp_all

theorem readNatural_eq_ok_iff :
    readNatural bound text = .ok value ↔ Writes value text ∧ value ≤ bound := by
  constructor
  · intro read
    cases text with
    | nil => cases read
    | cons c rest =>
      by_cases sign : c = '+'
      · subst sign
        have nonempty : rest ≠ [] := by
          rintro rfl
          cases read
        rw [readNatural_signed nonempty] at read
        obtain ⟨zeros, rfl⟩ := zeros_of_readDigits nonempty read
        exact ⟨.signed zeros, readDigits_le (Nat.zero_le bound) read⟩
      · rw [readNatural_unsigned sign] at read
        obtain ⟨zeros, same⟩ := zeros_of_readDigits (List.cons_ne_nil _ _) read
        exact ⟨same ▸ .plain zeros, readDigits_le (Nat.zero_le bound) read⟩
  · rintro ⟨writes, fits⟩
    have digits (zeros : Nat) :
        readDigits bound 0 (List.replicate zeros '0' ++ showNatural value) = .ok value :=
      (readDigits_zeros zeros _).trans (readDigits_showNatural fits)
    cases writes with
    | plain zeros =>
      have read := digits zeros
      obtain ⟨c, rest, written⟩ := List.exists_cons_of_ne_nil (Writes.plain zeros).ne_nil
      rw [written] at read ⊢
      obtain ⟨digit, small, rfl, -⟩ := readDigits_cons_ok read
      have unsigned : ∀ digit < 10, digit.digitChar ≠ '+' := by decide
      rw [readNatural_unsigned (unsigned digit small), read]
    | signed zeros => rw [readNatural_signed (Writes.plain zeros).ne_nil, digits zeros]

theorem readNatural_trim_eq_ok_iff :
    readNatural maxWord (trim text) = .ok value ↔ Denotes text value := by
  rw [readNatural_eq_ok_iff]
  constructor
  · rintro ⟨writes, fits⟩
    refine ⟨fits, _, writes, words_eq_iff.mp ?_⟩
    rw [← words_trim, words_of_plain writes.ne_nil writes.shown]
  · rintro ⟨fits, numeral, writes, spaced⟩
    rw [spaced.trim_eq]
    exact ⟨writes, fits⟩

end Numbers

end VisibleFacets.Text
