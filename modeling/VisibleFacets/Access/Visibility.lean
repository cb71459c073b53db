import VisibleFacets.Access.Principals
import VisibleFacets.Error
import VisibleFacets.Search.Document

/-!
# Checks of single hits

A check may fail, and may remember the checks before it.
-/

namespace VisibleFacets

/-- Decides whether the caller may see a hit, from the hit and a state. -/
structure Visibility (τ : Type) where
  check : Hit → τ → Except Error Bool × τ

namespace Visibility

def ofPredicate (visible : Hit → Bool) : Visibility Nat :=
  ⟨fun hit checks => (.ok (visible hit), checks + 1)⟩

def ofPrincipals (principals : List String) : Visibility Nat :=
  ofPredicate fun hit => canRead principals hit.readers

def firstChecks (quota : Nat) : Visibility Nat :=
  ⟨fun _ checks => (.ok (checks < quota), checks + 1)⟩

def failingAfter (quota : Nat) (error : Error) : Visibility Nat :=
  ⟨fun _ checks => (if checks < quota then .ok true else .error error, checks + 1)⟩

end Visibility

end VisibleFacets
