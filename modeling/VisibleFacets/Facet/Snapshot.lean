import VisibleFacets.Facet.Table

/-!
# Snapshots of earlier counts
-/

namespace VisibleFacets

/-- What an earlier run of the same query left: its table, its number of matches, and how many
labels it asked for per facet. -/
structure Snapshot where
  facets : FacetTable
  totalDocuments : Nat
  numFacets : Nat
  deriving DecidableEq, Inhabited

namespace Snapshot

def covers (snapshot : Snapshot) (limit : Nat) : Bool := limit ≤ snapshot.numFacets

def table (snapshot : Snapshot) (limit : Nat) : FacetTable :=
  snapshot.facets.mapValues fun entries => entries.take limit

def covering? (snapshot : Option Snapshot) (limit : Nat) : Option Snapshot :=
  snapshot.filter (covers · limit)

end Snapshot

end VisibleFacets
