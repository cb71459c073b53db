import VisibleFacets.Access.Principals

/-!
# Who can read what

A caller can read what some pattern of the readers admits, by itself or through one of the
principals (`canRead_iff`), so more principals read no less (`canRead_of_subset`). How a pattern
admits a principal is one rule, `Admits`, whichever way it is looked up: `canRead_decided`.
-/

namespace VisibleFacets

/-! ## Patterns -/

/-- The pattern is the name, or it ends in a star and the name begins with what is before that. -/
def Admits (pattern name : String) : Prop :=
  pattern = name ∨ ∃ stem rest, pattern = stem ++ "*" ∧ name = stem ++ rest

theorem stem?_eq_some_iff {pattern : String} {stem : List Char} :
    stem? pattern = some stem ↔ pattern.toList = stem ++ ['*'] := by
  rw [stem?, ← List.reverse_inj, List.reverse_append]
  split
  case h_1 reversed spelt =>
    rw [spelt, Option.some.injEq, List.reverse_eq_iff]
    simp
  case h_2 other =>
    constructor
    · intro found
      cases found
    · intro spelt
      exact absurd spelt (other _)

theorem globMatch_of_stem?_eq_some {pattern : String} {stem : List Char}
    (starred : stem? pattern = some stem) (value : String) :
    globMatch pattern value = true ↔ stem <+: value.toList := by
  rw [globMatch, starred]
  split
  case isTrue anyone =>
    subst anyone
    obtain rfl : stem = [] := by simpa using stem?_eq_some_iff.mp starred
    simp
  case isFalse => exact List.isPrefixOf_iff_prefix

theorem globMatch_of_stem?_eq_none {pattern : String} (exact : stem? pattern = none)
    (value : String) : globMatch pattern value = true ↔ pattern = value := by
  have named : pattern ≠ "*" := by
    rintro rfl
    contradiction
  simp [globMatch, named, exact]

theorem globMatch_iff {pattern value : String} :
    globMatch pattern value = true ↔ Admits pattern value := by
  constructor
  · intro matched
    cases starred : stem? pattern with
    | none => exact .inl ((globMatch_of_stem?_eq_none starred value).mp matched)
    | some stem =>
      obtain ⟨rest, spelt⟩ := (globMatch_of_stem?_eq_some starred value).mp matched
      refine .inr ⟨String.ofList stem, String.ofList rest, ?_, ?_⟩
      · apply String.toList_inj.mp
        simpa using stem?_eq_some_iff.mp starred
      · apply String.toList_inj.mp
        simpa using spelt.symm
  · rintro (rfl | ⟨stem, rest, rfl, rfl⟩)
    · cases starred : stem? pattern with
      | none => exact (globMatch_of_stem?_eq_none starred pattern).mpr rfl
      | some stem =>
        -- A star is literally at the end of the name as well.
        apply (globMatch_of_stem?_eq_some starred pattern).mpr
        exact ⟨['*'], (stem?_eq_some_iff.mp starred).symm⟩
    · have starred : stem? (stem ++ "*") = some stem.toList :=
        stem?_eq_some_iff.mpr (String.toList_append)
      apply (globMatch_of_stem?_eq_some starred _).mpr
      exact ⟨rest.toList, String.toList_append.symm⟩

/-! ## Readers -/

theorem canRead_iff {principals readers : List String} :
    canRead principals readers = true ↔ ∃ pattern ∈ readers,
      pattern = "*" ∨ ∃ principal ∈ principals, globMatch pattern principal = true := by
  rw [canRead, List.any_eq_true]
  apply exists_congr
  intro pattern
  apply and_congr_right
  intro _
  by_cases anyone : pattern = "*"
  · simp [anyone]
  · cases stem : stem? pattern with
    | some stem => simp [anyone]
    | none =>
      have admits := globMatch_of_stem?_eq_none stem
      simp [anyone, admits]

theorem canRead_of_subset {fewer principals : List String} (subset : fewer ⊆ principals)
    {readers : List String} (admitted : canRead fewer readers = true) :
    canRead principals readers = true := by
  obtain ⟨pattern, member, admits⟩ := canRead_iff.mp admitted
  apply canRead_iff.mpr
  refine ⟨pattern, member, admits.imp_right ?_⟩
  rintro ⟨principal, named, matched⟩
  exact ⟨principal, subset named, matched⟩

/-- Only which principals and which readers there are counts. -/
theorem canRead_congr {principals others readers patterns : List String}
    (names : ∀ name, name ∈ others ↔ name ∈ principals)
    (same : ∀ pattern, pattern ∈ patterns ↔ pattern ∈ readers) :
    canRead others patterns = canRead principals readers := by
  rw [Bool.eq_iff_iff, canRead_iff, canRead_iff]
  simp only [names, same]

theorem canRead_append_principals (principals others readers : List String) :
    canRead (principals ++ others) readers =
      (canRead principals readers || canRead others readers) := by
  rw [Bool.eq_iff_iff, Bool.or_eq_true, canRead_iff, canRead_iff, canRead_iff, ← exists_or]
  apply exists_congr
  intro pattern
  rw [← and_or_left, ← or_or_distrib_left]
  simp only [List.mem_append, or_and_right, exists_or]

theorem canRead_append_readers (principals readers others : List String) :
    canRead principals (readers ++ others) =
      (canRead principals readers || canRead principals others) :=
  List.any_append

/-- A caller can read what has a star among its readers, or a pattern that admits one of the
principals. So more principals, or more readers, add what they would grant by themselves, and their
order and repetitions grant nothing. -/
theorem canRead_decided (principals readers : List String) :
    (canRead principals readers = true ↔ "*" ∈ readers ∨
      ∃ pattern ∈ readers, ∃ name ∈ principals, globMatch pattern name = true) ∧
    (∀ pattern name, globMatch pattern name = true ↔ Admits pattern name) ∧
    (∀ others joint, (∀ name, name ∈ joint ↔ name ∈ principals ∨ name ∈ others) →
      canRead joint readers = (canRead principals readers || canRead others readers)) ∧
    (∀ others, canRead principals (readers ++ others) =
      (canRead principals readers || canRead principals others)) ∧
    (∀ names patterns, (∀ name, name ∈ names ↔ name ∈ principals) →
      (∀ pattern, pattern ∈ patterns ↔ pattern ∈ readers) →
      canRead names patterns = canRead principals readers) ∧
    canRead principals [] = false ∧
    (canRead [] readers = true ↔ "*" ∈ readers) := by
  refine ⟨?rule, fun _ _ => globMatch_iff, ?union, canRead_append_readers principals readers,
    fun _ _ => canRead_congr, rfl, ?nobody⟩
  case rule =>
    rw [canRead_iff]
    simp only [and_or_left, exists_or, exists_eq_right]
  case union =>
    intro others joint members
    rw [← canRead_append_principals]
    apply canRead_congr
    · intro name
      rw [members, List.mem_append]
    · exact fun _ => Iff.rfl
  case nobody =>
    rw [canRead_iff]
    simp

/-- Names and patterns with stars in them. -/
theorem canRead_decided_stars :
    let readers := ["team**", "ann*e"]
    canRead ["team*lead", "bob", "bob"] readers =
      (canRead ["bob"] readers || canRead ["team*lead"] readers) ∧
    canRead ["team*lead"] readers = true ∧
    canRead ["bob", "bob"] ["ann*e", "team**", "ann*e"] = canRead ["bob"] readers ∧
    ¬ Admits "ann*e" "anne" := by
  intro readers
  obtain ⟨-, matching, union, -, same, -⟩ := canRead_decided ["bob"] readers
  refine ⟨union ["team*lead"] _ ?_, ?_, same _ _ ?_ ?_, ?_⟩
  · intro name
    simp [or_comm]
  · apply (canRead_decided ["team*lead"] readers).1.mpr
    have admits : Admits "team**" "team*lead" := .inr ⟨"team*", "lead", rfl, rfl⟩
    exact .inr ⟨"team**", List.mem_cons_self, "team*lead", List.mem_cons_self,
      (matching _ _).mpr admits⟩
  · simp
  · intro pattern
    simp [readers, or_comm]
  · rw [← matching]
    decide

end VisibleFacets
