import VisibleFacets.Exchange.Search
import VisibleFacets.Facet.Mode

/-!
# JSON forms of tables, snapshots and estimations
-/

namespace VisibleFacets

namespace Entry

def read : Reading Entry
  | 0, _ => none
  | depth + 1, raw => do
    match ← Reading.fields ["label", "count"] raw with
    | [label, count] =>
      return { label := ← Reading.required .string depth label
               count := ← Reading.required .natural depth count }
    | _ => none

def toJson (entry : Entry) : Json :=
  .object [("label", .string entry.label), ("count", .ofNat entry.count)]

end Entry

namespace FacetTable

def read : Reading FacetTable := .dict (.list Entry.read)

def toJson (table : FacetTable) : Json :=
  .ofDict (fun entries => .array (entries.map Entry.toJson)) table

end FacetTable

namespace Snapshot

def read : Reading Snapshot
  | 0, _ => none
  | depth + 1, raw => do
    match ← Reading.fields ["facets", "total_documents", "num_facets"] raw with
    | [facets, totalDocuments, numFacets] =>
      return { facets := ← Reading.required FacetTable.read depth facets
               totalDocuments := ← Reading.required .natural depth totalDocuments
               numFacets := ← Reading.required .natural depth numFacets }
    | _ => none

def toJson (snapshot : Snapshot) : Json :=
  .object [("facets", FacetTable.toJson snapshot.facets),
    ("total_documents", .ofNat snapshot.totalDocuments), ("num_facets", .ofNat snapshot.numFacets)]

end Snapshot

namespace Strategy

def read : Reading Strategy :=
  .choice ([exact, sampled].map fun strategy => (strategy.name, strategy))

def toJson (strategy : Strategy) : Json := .string strategy.name

end Strategy

namespace Mode

def read : Reading Mode := .choice (all.map fun mode => (mode.name, mode))

def toJson (mode : Mode) : Json := .string mode.name

end Mode

structure TimedEstimation where
  estimation : Estimation
  candidates : Binary
  sampling : Binary
  total : Binary

namespace TimedEstimation

def fieldNames : List String :=
  ["strategy", "total_hits", "sample_size", "sampled", "accessible", "facet_count",
   "candidates_ms", "sampling_ms", "total_ms"]

def read : Reading TimedEstimation
  | 0, _ => none
  | depth + 1, raw => do
    match ← Reading.fields fieldNames raw with
    | [strategy, totalHits, sampleSize, sampled, accessible, facetCount, candidates, sampling,
        total] =>
      return {
        estimation := {
          strategy := ← Reading.required Strategy.read depth strategy
          totalHits := ← Reading.required .natural depth totalHits
          sampleSize := ← Reading.required .natural depth sampleSize
          sampled := ← Reading.required .natural depth sampled
          accessible := ← Reading.required .natural depth accessible
          facetCount := ← Reading.required .natural depth facetCount }
        candidates := ← Reading.required .double depth candidates
        sampling := ← Reading.required .double depth sampling
        total := ← Reading.required .double depth total }
    | _ => none

def toJson (timed : TimedEstimation) : Json :=
  .object [("strategy", timed.estimation.strategy.toJson),
    ("total_hits", .ofNat timed.estimation.totalHits),
    ("sample_size", .ofNat timed.estimation.sampleSize),
    ("sampled", .ofNat timed.estimation.sampled),
    ("accessible", .ofNat timed.estimation.accessible),
    ("facet_count", .ofNat timed.estimation.facetCount),
    ("candidates_ms", .decimal timed.candidates), ("sampling_ms", .decimal timed.sampling),
    ("total_ms", .decimal timed.total)]

end TimedEstimation

end VisibleFacets
