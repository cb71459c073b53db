import VisibleFacets.Dict

/-!
# Facet tables

Labels are ranked by falling count and, among equal counts, by rising code points. Main
definitions: `tally`, `topEntries`, `countFacets`.
-/

namespace VisibleFacets

structure Entry where
  label : String
  count : Nat
  deriving DecidableEq, Repr, Inhabited

/-- `first` ranks no lower than `second`. -/
def Entry.precedes (first second : Entry) : Bool :=
  second.count < first.count || (second.count = first.count && first.label ≤ second.label)

abbrev FacetTable := Dict (List Entry)

def tally (labels : List String) : Dict Nat :=
  labels.foldl (fun counts label => counts.insert label ((counts.get? label).getD 0 + 1)) .empty

def entriesOf (counts : Dict Nat) : List Entry := counts.entries.map fun entry => ⟨entry.1, entry.2⟩

def topEntries (limit : Nat) (entries : List Entry) : List Entry :=
  (entries.mergeSort Entry.precedes).take limit

/-- The top labels of every facet, a facet named twice being counted once. -/
def countFacets (labelsUnder : String → List String) (facets : List String) (limit : Nat) :
    FacetTable :=
  .ofList (facets.map fun facet =>
    (facet, topEntries limit (entriesOf (tally (labelsUnder facet)))))

end VisibleFacets
