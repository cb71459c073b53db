import VisibleFacets.Facet.Table
import VisibleFacets.Search.Query

/-!
# Search backends

A backend answers from a state, and every call may change it.
-/

namespace VisibleFacets

structure Page where
  hits : List Hit := []
  totalHits : Nat := 0
  deriving Inhabited

structure Backend (σ : Type) where
  fetchPage : Query → (batchSize offset : Nat) → σ → Except Error Page × σ
  aggregate : Query → (limit : Nat) → σ → Except Error FacetTable × σ

end VisibleFacets
