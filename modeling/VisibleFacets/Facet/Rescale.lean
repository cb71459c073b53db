import VisibleFacets.Facet.Table

/-!
# Rescaling counts by the visible share of a sample
-/

namespace VisibleFacets

def Entry.scale (sampleSize accessible : Nat) (entry : Entry) : Entry :=
  { entry with count := entry.count * accessible / sampleSize }

/-- Scales every count. A sample seen in full changes nothing; otherwise entries that come to zero
are dropped. -/
def rescale (sampleSize accessible : Nat) (entries : List Entry) : List Entry :=
  if sampleSize = 0 ∨ sampleSize ≤ accessible then entries
  else
    let scaled := entries.map (Entry.scale sampleSize accessible)
    if scaled.any (·.count = 0) then scaled.filter (·.count ≠ 0) else scaled

end VisibleFacets
