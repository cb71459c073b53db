import VisibleFacets.Settings.Basic
import VisibleFacets.Toml.Reader

/-!
# Settings as TOML

A section is a table, or a list of its values in the order of its fields; what is missing has its
default and unknown keys are passed over. Main definitions: `Settings.load`, `Settings.save?`.
-/

namespace VisibleFacets

open Toml

namespace Toml.Node

def natural? : Node → Option Nat
  | .integer value => if 0 ≤ value then some value.toNat else none
  | _ => none

def text? : Node → Option String
  | .string text => some text
  | _ => none

def isEmptyGroup : Node → Bool
  | .table _ members => members.isEmpty
  | .array items => items.isEmpty
  | .tables groups => groups.isEmpty
  | _ => false

def name? : Node → Option String
  | .string text => some text
  | .table _ [(name, value)] => if value.isEmptyGroup then some name else none
  | _ => none

/-- The values of the fields of a section. A date is a section in which no field is set. -/
def fields? (names : List String) : Node → Option (List (Option Node))
  | .table _ members => some (names.map fun name => members.lookup name)
  | .array items => some (names.zipIdx.map fun (_, index) => items[index]?)
  | .tables groups =>
    some (names.zipIdx.map fun (_, index) => (groups[index]?).map (.table .written))
  | .moment => some (names.map fun _ => none)
  | _ => none

def fieldOr {α : Type} (read : Node → Option α) (default : α) : Option Node → Option α
  | none => some default
  | some node => read node

end Toml.Node

namespace FacetSettings

def ofNode? (node : Node) : Option FacetSettings := do
  match ← node.fields? ["mode", "sample_size", "random_seed", "batch_size"] with
  | [mode, sampleSize, seed, batchSize] =>
    return { mode := ← Node.fieldOr (fun node => node.name?.bind Mode.ofName?) .statistical mode
             sampleSize := ← Node.fieldOr Node.natural? 1000 sampleSize
             seed := ← Node.fieldOr (fun node => node.natural?.map some) none seed
             batchSize := ← Node.fieldOr Node.natural? 1000 batchSize }
  | _ => none

end FacetSettings

namespace LogSettings

def ofNode? (node : Node) : Option LogSettings := do
  let default : LogSettings := {}
  match ← node.fields? ["log_format", "log_level"] with
  | [format, level] =>
    return { format := ← Node.fieldOr Node.text? default.format format
             level := ← Node.fieldOr Node.text? default.level level }
  | _ => none

end LogSettings

inductive SettingsFault where
  | unreadable
  | malformed
  | invalid (error : Error)
  deriving DecidableEq, Repr

def SettingsFault.message (path : String) : SettingsFault → String
  | unreadable => "Failed to read config " ++ path
  | malformed => "Failed to parse config"
  | invalid error => error.message

namespace Settings

def ofMembers? (members : Members) : Option Settings := do
  return { facets := ← Node.fieldOr FacetSettings.ofNode? {} (members.lookup "facets")
           log := ← Node.fieldOr LogSettings.ofNode? {} (members.lookup "observability") }

def load (text : List Char) : Except SettingsFault Settings :=
  match (document? text).bind ofMembers? with
  | none => .error .malformed
  | some settings => (settings.facets.validate.map fun _ => settings).mapError .invalid

def line (key : String) (value : List Char) : List Char :=
  key.toList ++ [' ', '=', ' '] ++ value ++ ['\n']

def heading (name : String) : List Char := '[' :: (name.toList ++ [']', '\n'])

def write (settings : Settings) (seed : List Char) : List Char :=
  heading "facets" ++
  line "mode" (quote settings.facets.mode.name.toList) ++
  line "sample_size" (Text.showNatural settings.facets.sampleSize) ++
  line "random_seed" seed ++
  line "batch_size" (Text.showNatural settings.facets.batchSize) ++
  ['\n'] ++
  heading "observability" ++
  line "log_format" (quote settings.log.format.toList) ++
  line "log_level" (quote settings.log.level.toList)

def isWritable (settings : Settings) (drawn : Nat) : Bool :=
  settings.facets.sampleSize ≤ maxInteger && settings.facets.seed.getD drawn ≤ maxInteger &&
    settings.facets.batchSize ≤ maxInteger

def save? (settings : Settings) (drawn : Nat) : Option (List Char) :=
  if settings.isWritable drawn then
    some (settings.write (Text.showNatural (settings.facets.seed.getD drawn)))
  else none

end Settings

end VisibleFacets
