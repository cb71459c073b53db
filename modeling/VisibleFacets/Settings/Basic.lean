import VisibleFacets.Facet.Mode
import VisibleFacets.Text.Blank

/-!
# Settings and their overrides

Every setting has a default. Two of them can be overridden by variables, one after the other, and
what was overridden before a failure stays. Main definitions: `Settings`, `Settings.override`.
-/

namespace VisibleFacets

structure FacetSettings where
  mode : Mode := .statistical
  sampleSize : Nat := 1000
  seed : Option Nat := none
  batchSize : Nat := 1000
  deriving DecidableEq, Repr, Inhabited

namespace FacetSettings

def validate (settings : FacetSettings) : Except Error Unit :=
  checkSizes settings.sampleSize settings.batchSize

/-- The plan for samples, with `drawn` for a seed that is not set. -/
def plan (settings : FacetSettings) (drawn : Nat) : SamplePlan :=
  ⟨settings.sampleSize, settings.seed.getD drawn, settings.batchSize⟩

end FacetSettings

structure LogSettings where
  format : String := "pretty"
  level : String := "info,statfacet=debug"
  deriving DecidableEq, Repr, Inhabited

structure Settings where
  facets : FacetSettings := {}
  log : LogSettings := {}
  deriving DecidableEq, Repr, Inhabited

inductive OverrideFault where
  | notANumber (name raw : String) (cause : Text.NaturalFault)
  | invalid (error : Error)
  deriving DecidableEq, Repr

def OverrideFault.message : OverrideFault → String
  | notANumber name raw _ => "Invalid " ++ name ++ ": '" ++ raw ++ "'"
  | invalid error => error.message

namespace Settings

def sampleSizeVariable : String := "STATFACET_SAMPLE_SIZE"

def seedVariable : String := "STATFACET_RANDOM_SEED"

def readVariable (lookup : String → Option String) (name : String) :
    Except OverrideFault (Option Nat) :=
  match lookup name with
  | none => .ok none
  | some raw =>
    match Text.readNatural Text.maxWord (Text.trim raw.toList) with
    | .ok value => .ok (some value)
    | .error cause => .error (.notANumber name raw cause)

def withSampleSize (settings : Settings) (size : Option Nat) : Settings :=
  { settings with facets.sampleSize := size.getD settings.facets.sampleSize }

def withSeed (settings : Settings) (seed : Option Nat) : Settings :=
  { settings with facets.seed := seed.or settings.facets.seed }

/-- Overrides the sample size, then the seed, and then looks whether the settings are valid. -/
def override (lookup : String → Option String) (settings : Settings) :
    Except OverrideFault Unit × Settings :=
  match readVariable lookup sampleSizeVariable with
  | .error fault => (.error fault, settings)
  | .ok size =>
    let settings := settings.withSampleSize size
    match readVariable lookup seedVariable with
    | .error fault => (.error fault, settings)
    | .ok seed =>
      let settings := settings.withSeed seed
      (settings.facets.validate.mapError .invalid, settings)

end Settings

end VisibleFacets
