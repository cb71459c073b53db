import VisibleFacets.Error
import VisibleFacets.Search.Document
import VisibleFacets.Text.Blank

/-!
# Queries and their terms

A query text is a list of `field:value` terms, all of which have to match; a text without terms, or
a star alone, matches everything. Main definitions: `Query.terms`, `Term.matches`.
-/

namespace VisibleFacets

structure Query where
  text : String
  facets : List String := []
  deriving DecidableEq, Repr, Inhabited

structure Term where
  field : String
  value : String
  deriving DecidableEq, Repr

namespace Query

def matchAll (facets : List String) : Query := ⟨"*", facets⟩

/-- Splits a word at its first colon; neither side may be empty. -/
def term (word : List Char) : Except Error Term :=
  match Text.splitOnce ':' word with
  | some (c :: field, d :: value) => .ok ⟨String.ofList (c :: field), String.ofList (d :: value)⟩
  | _ => .error (.malformedTerm (String.ofList word))

def terms (text : List Char) : Except Error (List Term) :=
  if Text.trim text = [] ∨ Text.trim text = ['*'] then .ok []
  else (Text.words text).mapM term

end Query

namespace Term

/-- The field `id` is the document's name and never one of its fields. -/
def holds (term : Term) (document : Document) : Bool :=
  if term.field = "id" then document.id = term.value
  else term.value ∈ labels document.fields term.field

end Term

end VisibleFacets
