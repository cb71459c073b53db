import VisibleFacets.Json.Meaning

/-!
# Documents, hits and their labels

A field's labels are what facets count: a scalar gives one, a list one for each of its scalars.
-/

namespace VisibleFacets

/-- A stored document; `readers` are the patterns of principals that may read it. -/
structure Document where
  id : String
  fields : Dict Json := .empty
  readers : List String := []
  deriving Inhabited

def noScore : Binary := ⟨false, BinaryFormat.single.zero⟩

/-- A search result; `score` is a single, or `none` beyond the largest. -/
structure Hit where
  id : String
  score : Option Binary := some noScore
  fields : Dict Json := .empty
  readers : List String := []
  deriving Inhabited

def fullScore : Binary := ⟨false, ⟨Nat.pow 2 23, -23⟩⟩

def Document.toHit (document : Document) : Hit :=
  { id := document.id, score := some fullScore, fields := document.fields,
    readers := document.readers }

/-- Texts stand for themselves, numbers and truth values are written out, and nothing else has a
label. -/
def scalarLabel? : Json → Option String
  | .string text => some text
  | .integer value => some (String.ofList (Text.showInteger value))
  | .decimal value => some (String.ofList (writeBinary .double value))
  | .bool true => some "true"
  | .bool false => some "false"
  | _ => none

def valueLabels : Json → List String
  | .array items => items.filterMap scalarLabel?
  | value => (scalarLabel? value).toList

def labels (fields : Dict Json) (field : String) : List String :=
  match fields.get? field with
  | none => []
  | some value => valueLabels value

end VisibleFacets
