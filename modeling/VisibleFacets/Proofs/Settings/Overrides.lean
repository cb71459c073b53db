import VisibleFacets.Proofs.Text.Numerals
import VisibleFacets.Settings.Basic

/-!
# What overriding leaves

A variable holds a number, or none, or its text is garbled. `Settings.override_decided` says when
overriding succeeds and what it leaves of the settings, also where it stops half way.
-/

namespace VisibleFacets

theorem FacetSettings.validate_eq_ok_iff {settings : FacetSettings} :
    settings.validate = .ok () ↔ 0 < settings.sampleSize ∧ 0 < settings.batchSize :=
  checkSizes_eq_ok_iff

theorem mapError_eq_ok_iff {α β γ : Type} {f : α → β} {outcome : Except α γ} {value : γ} :
    outcome.mapError f = .ok value ↔ outcome = .ok value := by
  cases outcome <;> simp [Except.mapError]

namespace Settings

/-- What a variable holds: nothing if it is missing, and otherwise the number that its text
denotes. -/
def Holds (lookup : String → Option String) (name : String) (held : Option Nat) : Prop :=
  Option.Rel (fun raw value => Text.Denotes raw.toList value) (lookup name) held

/-- The variable has a text that denotes no number. -/
def Garbled (lookup : String → Option String) (name raw : String) : Prop :=
  lookup name = some raw ∧ ∀ value, ¬Text.Denotes raw.toList value

section Variables

variable {lookup : String → Option String} {name raw : String}

theorem readVariable_of_holds {held : Option Nat} (holds : Holds lookup name held) :
    readVariable lookup name = .ok held := by
  unfold Holds at holds
  cases given : lookup name with
  | none =>
    rw [given] at holds
    cases holds
    rw [readVariable, given]
  | some raw =>
    rw [given] at holds
    cases holds with
    | some denotes => simp only [readVariable, given, Text.readNatural_trim_eq_ok_iff.mpr denotes]

theorem Holds.unique {first second : Option Nat} (left : Holds lookup name first)
    (right : Holds lookup name second) : first = second :=
  Except.ok.inj ((readVariable_of_holds left).symm.trans (readVariable_of_holds right))

theorem readVariable_of_garbled (garbled : Garbled lookup name raw) :
    ∃ cause, readVariable lookup name = .error (.notANumber name raw cause) := by
  obtain ⟨given, nothing⟩ := garbled
  cases read : Text.readNatural Text.maxWord (Text.trim raw.toList) with
  | ok value => exact absurd (Text.readNatural_trim_eq_ok_iff.mp read) (nothing value)
  | error cause => exact ⟨cause, by simp only [readVariable, given, read]⟩

theorem holds_or_garbled (lookup : String → Option String) (name : String) :
    (∃ held, Holds lookup name held) ∨ ∃ raw, Garbled lookup name raw := by
  unfold Holds Garbled
  cases lookup name with
  | none => exact .inl ⟨none, .none⟩
  | some raw =>
    by_cases number : ∃ value, Text.Denotes raw.toList value
    · obtain ⟨value, denotes⟩ := number
      exact .inl ⟨some value, .some denotes⟩
    · exact .inr ⟨raw, rfl, not_exists.mp number⟩

end Variables

/-! ## Ways of overriding -/

section Ways

variable {lookup : String → Option String} {settings : Settings} {size seed : Option Nat}
  {raw : String}

theorem override_of_holds (size_held : Holds lookup sampleSizeVariable size)
    (seed_held : Holds lookup seedVariable seed) :
    settings.override lookup =
      let settings := (settings.withSampleSize size).withSeed seed
      (settings.facets.validate.mapError .invalid, settings) := by
  simp only [override, readVariable_of_holds size_held, readVariable_of_holds seed_held]

theorem override_of_garbled_size (settings : Settings)
    (garbled : Garbled lookup sampleSizeVariable raw) :
    ∃ cause, settings.override lookup =
      (.error (.notANumber sampleSizeVariable raw cause), settings) := by
  obtain ⟨cause, read⟩ := readVariable_of_garbled garbled
  exact ⟨cause, by simp only [override, read]⟩

theorem override_of_garbled_seed (settings : Settings)
    (size_held : Holds lookup sampleSizeVariable size) (garbled : Garbled lookup seedVariable raw) :
    ∃ cause, settings.override lookup =
      (.error (.notANumber seedVariable raw cause), settings.withSampleSize size) := by
  obtain ⟨cause, read⟩ := readVariable_of_garbled garbled
  exact ⟨cause, by simp only [override, readVariable_of_holds size_held, read]⟩

theorem held_of_override (succeeded : (settings.override lookup).1 = .ok ()) :
    ∃ size seed, Holds lookup sampleSizeVariable size ∧ Holds lookup seedVariable seed := by
  rcases holds_or_garbled lookup sampleSizeVariable with ⟨size, size_held⟩ | ⟨raw, garbled⟩
  · rcases holds_or_garbled lookup seedVariable with ⟨seed, seed_held⟩ | ⟨raw, garbled⟩
    · exact ⟨size, seed, size_held, seed_held⟩
    · obtain ⟨cause, failed⟩ := override_of_garbled_seed settings size_held garbled
      rw [failed] at succeeded
      cases succeeded
  · obtain ⟨cause, failed⟩ := override_of_garbled_size settings garbled
    rw [failed] at succeeded
    cases succeeded

theorem override_eq_ok_iff {after : Settings} :
    settings.override lookup = (.ok (), after) ↔ ∃ size seed,
      Holds lookup sampleSizeVariable size ∧ Holds lookup seedVariable seed ∧
      (settings.withSampleSize size).withSeed seed = after ∧
      0 < after.facets.sampleSize ∧ 0 < after.facets.batchSize := by
  constructor
  · intro overridden
    have succeeded : (settings.override lookup).1 = .ok () := by rw [overridden]
    obtain ⟨size, seed, size_held, seed_held⟩ := held_of_override succeeded
    rw [override_of_holds size_held seed_held] at overridden
    obtain ⟨valid, rfl⟩ := Prod.mk.inj overridden
    exact ⟨size, seed, size_held, seed_held, rfl,
      FacetSettings.validate_eq_ok_iff.mp (mapError_eq_ok_iff.mp valid)⟩
  · rintro ⟨size, seed, size_held, seed_held, rfl, positive⟩
    rw [override_of_holds size_held seed_held]
    simp only [mapError_eq_ok_iff.mpr (FacetSettings.validate_eq_ok_iff.mpr positive)]

end Ways

/-- What overriding comes to, and the settings that are left by it. -/
structure Overridden (lookup : String → Option String) (before : Settings)
    (outcome : Except OverrideFault Unit) (after : Settings) : Prop where
  mode : after.facets.mode = before.facets.mode
  batchSize : after.facets.batchSize = before.facets.batchSize
  log : after.log = before.log
  succeeds_iff : outcome = .ok () ↔ ∃ size seed, Holds lookup sampleSizeVariable size ∧
    Holds lookup seedVariable seed ∧ 0 < size.getD before.facets.sampleSize ∧
    0 < before.facets.batchSize
  applied : ∀ size seed, Holds lookup sampleSizeVariable size → Holds lookup seedVariable seed →
    after.facets.sampleSize = size.getD before.facets.sampleSize ∧
    after.facets.seed = seed.or before.facets.seed ∧
    (outcome = .ok () ∨ ∃ error, outcome = .error (.invalid error))
  size_garbled : ∀ raw, Garbled lookup sampleSizeVariable raw →
    (∃ cause, outcome = .error (.notANumber sampleSizeVariable raw cause)) ∧ after = before
  seed_garbled : ∀ size raw, Holds lookup sampleSizeVariable size →
    Garbled lookup seedVariable raw →
    (∃ cause, outcome = .error (.notANumber seedVariable raw cause)) ∧
    after.facets.sampleSize = size.getD before.facets.sampleSize ∧
    after.facets.seed = before.facets.seed

theorem override_kept (lookup : String → Option String) (settings : Settings) :
    (settings.override lookup).2.facets.mode = settings.facets.mode ∧
    (settings.override lookup).2.facets.batchSize = settings.facets.batchSize ∧
    (settings.override lookup).2.log = settings.log := by
  unfold override
  split
  · exact ⟨rfl, rfl, rfl⟩
  · dsimp only
    split <;> exact ⟨rfl, rfl, rfl⟩

theorem override_succeeds_iff (lookup : String → Option String) (settings : Settings) :
    (settings.override lookup).1 = .ok () ↔ ∃ size seed, Holds lookup sampleSizeVariable size ∧
      Holds lookup seedVariable seed ∧ 0 < size.getD settings.facets.sampleSize ∧
      0 < settings.facets.batchSize := by
  constructor
  · intro succeeded
    obtain ⟨size, seed, size_held, seed_held, same, positive⟩ :=
      override_eq_ok_iff.mp (Prod.ext succeeded rfl)
    rw [← same] at positive
    exact ⟨size, seed, size_held, seed_held, positive⟩
  · rintro ⟨size, seed, size_held, seed_held, positive⟩
    rw [override_eq_ok_iff.mpr ⟨size, seed, size_held, seed_held, rfl, positive⟩]

/-- Whatever the variables hold. -/
theorem override_decided (lookup : String → Option String) (settings : Settings) :
    Overridden lookup settings (settings.override lookup).1 (settings.override lookup).2 := by
  obtain ⟨mode, batchSize, log⟩ := override_kept lookup settings
  refine ⟨mode, batchSize, log, override_succeeds_iff lookup settings, ?applied, ?size_garbled,
    ?seed_garbled⟩
  case applied =>
    intro size seed size_held seed_held
    rw [override_of_holds size_held seed_held]
    refine ⟨rfl, rfl, ?_⟩
    cases checked : ((settings.withSampleSize size).withSeed seed).facets.validate with
    | ok => exact .inl (mapError_eq_ok_iff.mpr checked)
    | error error => exact .inr ⟨error, by simp only [checked, Except.mapError]⟩
  case size_garbled =>
    intro raw garbled
    obtain ⟨cause, failed⟩ := override_of_garbled_size settings garbled
    rw [failed]
    exact ⟨⟨cause, rfl⟩, rfl⟩
  case seed_garbled =>
    intro size raw size_held garbled
    obtain ⟨cause, failed⟩ := override_of_garbled_seed settings size_held garbled
    rw [failed]
    exact ⟨⟨cause, rfl⟩, rfl, rfl⟩

/-- The sample size has blanks, a sign and zeros around it, and the seed is one too large. -/
theorem override_decided_stopped :
    let lookup (name : String) : Option String :=
      if name = sampleSizeVariable then some "\u2003+0042\n"
      else if name = seedVariable then some "18446744073709551616"
      else none
    Holds lookup sampleSizeVariable (some 42) ∧
    Garbled lookup seedVariable "18446744073709551616" ∧
    (∃ cause, (Settings.override lookup {}).1 =
      .error (.notANumber seedVariable "18446744073709551616" cause)) ∧
    (Settings.override lookup {}).2.facets.sampleSize = 42 ∧
    (Settings.override lookup {}).2.facets.seed = none := by
  intro lookup
  have held : Holds lookup sampleSizeVariable (some 42) :=
    .some (Text.readNatural_trim_eq_ok_iff.mp (by decide))
  have garbled : Garbled lookup seedVariable "18446744073709551616" := by
    refine ⟨by decide, fun value denotes => ?_⟩
    have large : Text.readNatural Text.maxWord (Text.trim "18446744073709551616".toList) =
        .error .tooLarge := by decide
    rw [Text.readNatural_trim_eq_ok_iff.mpr denotes] at large
    cases large
  exact ⟨held, garbled, (override_decided lookup {}).seed_garbled (some 42) _ held garbled⟩

end Settings

end VisibleFacets
