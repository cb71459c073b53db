import VisibleFacets.Proofs.Text.Natural
import VisibleFacets.Toml.Scalar

/-!
# Integers read back

A number at the end of a line is neither a date nor a time, and is read with its digits:
`scalar?_showNatural`.
-/

namespace VisibleFacets.Toml

theorem twoDigits?_eq_some {low high value : Nat} {text later : List Char}
    (found : twoDigits? low high text = some (value, later)) :
    ∃ a b, text = [a, b] ++ later ∧ ∀ mark ∈ [a, b], Text.digitValue? mark ≠ none := by
  unfold twoDigits? at found
  split at found
  · rename_i a b _
    cases first : Text.digitValue? a with
    | none => simp [first] at found
    | some _ =>
      cases second : Text.digitValue? b with
      | none => simp [first, second] at found
      | some _ =>
        simp only [first, second, Option.bind_eq_bind, Option.bind_some] at found
        split at found
        · cases found
          exact ⟨a, b, rfl, by simp [first, second]⟩
        · cases found
  · cases found

section Digits

variable {written : List Nat} (small : ∀ digit ∈ written, digit < 10) {rest : List Char}
include small

theorem moreDigits_append :
    moreDigits Text.digitValue? (written.map Nat.digitChar ++ '\n' :: rest) =
      (written, '\n' :: rest) := by
  induction written with
  | nil => rfl
  | cons digit written ih =>
    obtain ⟨here, small⟩ := List.forall_mem_cons.mp small
    have value := Text.digitValue?_digitChar here
    have different : digit.digitChar ≠ '_' := by
      intro same
      rw [same] at value
      cases value
    simp [moreDigits, value, different, ih small]

/-- Behind digits at the head of a number stands another digit or the end of the line. -/
theorem digit_of_append_eq {marks later : List Char} {c : Char}
    (marked : ∀ mark ∈ marks, Text.digitValue? mark ≠ none)
    (same : written.map Nat.digitChar ++ '\n' :: rest = marks ++ c :: later) :
    c = '\n' ∨ Text.digitValue? c ≠ none := by
  induction written generalizing marks with
  | nil =>
    cases marks with
    | nil => exact .inl (List.cons_eq_cons.mp same).1.symm
    | cons mark marks =>
      have first := (List.cons_eq_cons.mp same).1
      exact absurd rfl (first ▸ marked mark (.head _))
  | cons digit written ih =>
    obtain ⟨here, small⟩ := List.forall_mem_cons.mp small
    cases marks with
    | nil =>
      have first := (List.cons_eq_cons.mp same).1
      rw [← first, Text.digitValue?_digitChar here]
      exact .inr (Option.some_ne_none _)
    | cons mark marks =>
      exact ih small (fun other member => marked other (.tail _ member))
        (List.cons_eq_cons.mp same).2

theorem date?_append : date? (written.map Nat.digitChar ++ '\n' :: rest) = none := by
  unfold date?
  split
  · rename_i a b c d later same
    -- behind four digits there would be a dash, but there is a digit or the end of the line
    by_cases marked : ∀ mark ∈ [a, b, c, d], Text.digitValue? mark ≠ none
    · exact absurd (digit_of_append_eq small marked same) (by decide)
    · simp only [List.forall_mem_cons, not_and_or, not_not] at marked
      rcases marked with none | none | none | none | none
      all_goals simp_all
  · rfl

theorem time?_append : time? (written.map Nat.digitChar ++ '\n' :: rest) = none := by
  cases found : twoDigits? 0 23 (written.map Nat.digitChar ++ '\n' :: rest) with
  | none => simp [time?, found]
  | some hour =>
    obtain ⟨value, later⟩ := hour
    obtain ⟨a, b, shape, marked⟩ := twoDigits?_eq_some found
    have ended : expect? ':' later = none := by
      cases later with
      | nil => rfl
      | cons c later =>
        have different : c ≠ ':' := by
          rintro rfl
          exact absurd (digit_of_append_eq small marked shape) (by decide)
        rw [expect?, if_neg different]
    simp [time?, found, ended]

theorem moment?_append : moment? (written.map Nat.digitChar ++ '\n' :: rest) = none := by
  rw [moment?, date?_append small]
  exact time?_append small

end Digits

/-- A digit opens nothing but a number. -/
theorem digit_opens {digit : Nat} (small : digit < 10) :
    digit.digitChar ∉ ['+', '-', 't', 'f', 'i', 'n', '[', '{', '\x22', '\x27', ' ', '\t'] := by
  have all : ∀ digit < 10, digit.digitChar ∉
    ['+', '-', 't', 'f', 'i', 'n', '[', '{', '\x22', '\x27', ' ', '\t'] := by decide
  exact all digit small

theorem decimal?_append {written : List Nat} {value : Nat} (spells : Text.Spells written value)
    (rest : List Char) :
    decimal? (written.map Nat.digitChar ++ '\n' :: rest) = some (written, '\n' :: rest) := by
  obtain ⟨digit, later, rfl⟩ := List.exists_cons_of_ne_nil spells.nonempty
  obtain ⟨here, small⟩ := List.forall_mem_cons.mp spells.small
  rcases Nat.eq_zero_or_pos digit with rfl | positive
  · obtain ⟨-, rfl⟩ := List.cons_eq_cons.mp (spells.leading rfl)
    rfl
  · have different : digit.digitChar ≠ '0' := Text.digitChar_ne_zero here positive
    have more : moreDigits Text.digitValue? (later.map Nat.digitChar ++ '\n' :: rest) =
      (later, '\n' :: rest) := moreDigits_append small
    simp [decimal?, different, digits?, Text.digitValue?_digitChar here, more]

theorem number?_append {written : List Nat} {value : Nat} (spells : Text.Spells written value)
    (fits : value ≤ maxInteger) (rest : List Char) :
    number? (written.map Nat.digitChar ++ '\n' :: rest) =
      some (.integer value, '\n' :: rest) := by
  have unsigned : sign (written.map Nat.digitChar ++ '\n' :: rest) =
      (false, written.map Nat.digitChar ++ '\n' :: rest) := by
    obtain ⟨digit, later, rfl⟩ := List.exists_cons_of_ne_nil spells.nonempty
    have opens := digit_opens (spells.small digit (.head _))
    simp only [List.mem_cons, not_or] at opens
    simp [sign, opens]
  have whole := decimal?_append spells rest
  have total : digitsValue 10 written = value := spells.value
  simp [number?, unsigned, whole, fraction?, exponent?, integer?, total, fits]

/-- No number is written with a base. -/
theorem append_ne_based {written : List Nat} {value : Nat} (spells : Text.Spells written value)
    (rest : List Char) {c : Char} (different : c ≠ '\n') (later : List Char) :
    written.map Nat.digitChar ++ '\n' :: rest ≠ '0' :: c :: later := by
  obtain ⟨digit, others, rfl⟩ := List.exists_cons_of_ne_nil spells.nonempty
  intro same
  obtain ⟨first, second⟩ := List.cons_eq_cons.mp same
  rcases Nat.eq_zero_or_pos digit with rfl | positive
  · obtain ⟨-, rfl⟩ := List.cons_eq_cons.mp (spells.leading rfl)
    exact different (List.cons_eq_cons.mp second).1.symm
  · exact Text.digitChar_ne_zero (spells.small digit (.head _)) positive first

theorem scalar?_showNatural {value : Nat} (fits : value ≤ maxInteger) (rest : List Char) :
    scalar? (Text.showNatural value ++ '\n' :: rest) = some (.integer value, '\n' :: rest) := by
  obtain ⟨written, spells, shown⟩ := Text.exists_spells value
  have moment : moment? (written.map Nat.digitChar ++ '\n' :: rest) = none :=
    moment?_append spells.small
  have number := number?_append spells fits rest
  have based (c : Char) (different : c ≠ '\n') := append_ne_based spells rest different
  obtain ⟨digit, later, rfl⟩ := List.exists_cons_of_ne_nil spells.nonempty
  have opens := digit_opens (spells.small digit (.head _))
  simp only [List.mem_cons, not_or] at opens
  have special : special? ((digit :: later).map Nat.digitChar ++ '\n' :: rest) = none := by
    simp [special?, sign, opens]
  rw [shown]
  unfold scalar?
  split
  case h_1 same => exact absurd (List.cons_eq_cons.mp same).1 (by simp [opens])
  case h_2 same => exact absurd (List.cons_eq_cons.mp same).1 (by simp [opens])
  case h_3 same => exact absurd same (based 'x' (by decide) _)
  case h_4 same => exact absurd same (based 'o' (by decide) _)
  case h_5 same => exact absurd same (based 'b' (by decide) _)
  case h_6 => simp only [moment, special, number]

end VisibleFacets.Toml
