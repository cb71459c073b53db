import VisibleFacets.Exchange.Facets
import VisibleFacets.Settings.Basic

/-!
# JSON form of the settings for counting
-/

namespace VisibleFacets.FacetSettings

def seedReading : Reading (Option Nat) := fun depth raw => (Reading.natural depth raw).map some

def read : Reading FacetSettings
  | 0, _ => none
  | depth + 1, raw => do
    match ← Reading.fields ["mode", "sample_size", "random_seed", "batch_size"] raw with
    | [mode, sampleSize, seed, batchSize] =>
      return { mode := ← Reading.optional Mode.read .statistical depth mode
               sampleSize := ← Reading.optional .natural 1000 depth sampleSize
               seed := ← Reading.optional seedReading none depth seed
               batchSize := ← Reading.optional .natural 1000 depth batchSize }
    | _ => none

/-- A seed that is still to be drawn shows as the word for it. -/
def toJson (settings : FacetSettings) : Json :=
  .object [("mode", settings.mode.toJson), ("sample_size", .ofNat settings.sampleSize),
    ("random_seed", settings.seed.elim (.string "random") .ofNat),
    ("batch_size", .ofNat settings.batchSize)]

end VisibleFacets.FacetSettings
