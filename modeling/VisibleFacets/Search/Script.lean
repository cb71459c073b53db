import VisibleFacets.Search.Backend

/-!
# Backends that answer from a script
-/

namespace VisibleFacets

/-- Answers to page fetches in order, whatever they ask for, and one answer to all aggregations. -/
structure Script where
  pages : List (Except Error Page)
  table : Except Error FacetTable

structure CallLog where
  fetches : List (Nat × Nat) := []
  aggregations : Nat := 0
  deriving DecidableEq, Repr, Inhabited

namespace Script

def backend (script : Script) : Backend CallLog where
  fetchPage _ batchSize offset log :=
    ((script.pages[log.fetches.length]?).getD (.ok {}),
      { log with fetches := log.fetches ++ [(batchSize, offset)] })
  aggregate _ _ log := (script.table, { log with aggregations := log.aggregations + 1 })

end Script

end VisibleFacets
