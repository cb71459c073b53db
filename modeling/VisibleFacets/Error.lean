/-!
# Failures of searching and counting

Each kind carries what it says; `Error.message` is its full wording. Where memory gives out, nobody
is told but the host.
-/

namespace VisibleFacets

inductive Error where
  | backend (detail : String)
  | permission (detail : String)
  | invalidQuery (detail : String)
  | config (detail : String)
  | noRoom
  deriving DecidableEq, Repr

namespace Error

def message : Error → String
  | backend detail => "Backend error: " ++ detail
  | permission detail => "Permission check failed: " ++ detail
  | invalidQuery detail => "Invalid query: " ++ detail
  | config detail => "Config error: " ++ detail
  | noRoom => "capacity overflow"

def malformedTerm (term : String) : Error :=
  .invalidQuery ("expected field:value, got '" ++ term ++ "'")

def pageFailure (offset : Nat) : Error :=
  .backend ("simulated failure fetching page at offset " ++ toString offset)

def zeroSampleSize : Error := .config "facets.sample_size must be greater than zero"

def zeroBatchSize : Error := .config "facets.batch_size must be greater than zero"

def unknownMode (name : String) : Error := .config ("unknown facet mode '" ++ name ++ "'")

end Error

end VisibleFacets
