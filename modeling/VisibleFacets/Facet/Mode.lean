import VisibleFacets.Facet.Counting
import VisibleFacets.Facet.Rescale
import VisibleFacets.Facet.Snapshot

/-!
# The three ways to count facets

Secure counts check every hit. Insecure counts are the backend's own. Statistical ones are the
backend's, scaled by the visible share of a sample of the hits, or secure ones where there are fewer
hits than the sample asks for. Main definitions: `secureFacets`, `insecureFacets`,
`statisticalFacets`, `facetsIn`.
-/

namespace VisibleFacets

variable {σ τ : Type}

inductive Mode where
  | secure
  | statistical
  | insecure
  deriving DecidableEq, Repr, Inhabited

namespace Mode

def name : Mode → String
  | secure => "secure"
  | statistical => "statistical"
  | insecure => "insecure"

def all : List Mode := [secure, statistical, insecure]

def ofName? (name : String) : Option Mode := all.find? (·.name = name)

theorem ofName?_name (mode : Mode) : ofName? mode.name = some mode := by
  cases mode <;> decide

theorem ofName?_eq_some_iff {name : String} {mode : Mode} :
    ofName? name = some mode ↔ name = mode.name := by
  constructor
  · intro found
    have named : mode.name = name := by simpa using List.find?_some found
    exact named.symm
  · rintro rfl
    exact ofName?_name mode

def parse (text : String) : Except Error Mode :=
  let lowered := text.map Char.toLower
  match ofName? lowered with
  | some mode => .ok mode
  | none => .error (.unknownMode lowered)

end Mode

structure SamplePlan where
  sampleSize : Nat
  seed : Nat
  batchSize : Nat
  deriving DecidableEq, Repr, Inhabited

/-- Neither size may be zero; the sample's is looked at first. -/
def checkSizes (sampleSize batchSize : Nat) : Except Error Unit :=
  if sampleSize = 0 then .error .zeroSampleSize
  else if batchSize = 0 then .error .zeroBatchSize
  else .ok ()

theorem checkSizes_eq_ok_iff {sampleSize batchSize : Nat} :
    checkSizes sampleSize batchSize = .ok () ↔ 0 < sampleSize ∧ 0 < batchSize := by
  rw [checkSizes, Nat.pos_iff_ne_zero, Nat.pos_iff_ne_zero]
  by_cases noSample : sampleSize = 0 <;> by_cases noBatch : batchSize = 0 <;>
    simp [noSample, noBatch]

def SamplePlan.validate (plan : SamplePlan) : Except Error Unit :=
  checkSizes plan.sampleSize plan.batchSize

def defaultBatchSize : Nat := 1000

def secureFacets (backend : Backend σ) (visibility : Visibility τ) (query : Query)
    (batchSize limit : Nat) : Counting σ τ FacetTable := do
  if batchSize = 0 then
    Counting.fail .zeroBatchSize
  else
    let inspection ← readHits backend visibility query batchSize
    Counting.emit [.event (.secureComplete inspection.checked inspection.visible.length)]
    return countFacets (fun facet => inspection.visible.flatMap fun hit => labels hit.fields facet)
      query.facets limit

def insecureFacets (backend : Backend σ) (query : Query) (snapshot : Option Snapshot)
    (limit : Nat) : Counting σ τ FacetTable :=
  match Snapshot.covering? snapshot limit with
  | some snapshot => pure (snapshot.table limit)
  | none => Counting.ask (backend.aggregate query limit)

/-- The counts to be rescaled and the number of hits, from a snapshot that covers the limit or else
from two calls of the backend. -/
def candidates (backend : Backend σ) (query : Query) (snapshot : Option Snapshot)
    (batchSize limit : Nat) : Counting σ τ (FacetTable × Nat) :=
  match Snapshot.covering? snapshot limit with
  | some snapshot => pure (snapshot.table limit, snapshot.totalDocuments)
  | none => do
    Counting.emit [.event (.askingBackend query.text)]
    let table ← insecureFacets backend query none limit
    let page ← Counting.ask (backend.fetchPage query batchSize 0)
    return (table, page.totalHits)

/-- The sizes of a sample of the hits and of its visible part. A sample of all hits is not drawn:
the hits are checked as they come. -/
def checkSample [Memory] (backend : Backend σ) (visibility : Visibility τ) (query : Query)
    (plan : SamplePlan) (totalHits : Nat) : Counting σ τ (Nat × Nat) := do
  if plan.sampleSize < totalHits then
    Counting.emit [.event (.sampling plan.sampleSize totalHits)]
    let (hits, inspection) ←
      inspectSample backend visibility query plan.batchSize totalHits plan.sampleSize plan.seed
    return (hits.length, inspection.visible.length)
  else
    Counting.emit [.event (.checkingAll plan.sampleSize totalHits)]
    let inspection ← readHits backend visibility query plan.batchSize
    return (inspection.checked, inspection.visible.length)

def statisticalFacets [Memory] (backend : Backend σ) (visibility : Visibility τ) (query : Query)
    (plan : SamplePlan) (snapshot : Option Snapshot) (limit : Nat) : Counting σ τ FacetTable := do
  Counting.ofExcept plan.validate
  let (table, totalHits) ← candidates backend query snapshot plan.batchSize limit
  let estimation : Estimation :=
    { strategy := .choose totalHits plan.sampleSize, totalHits, sampleSize := plan.sampleSize }
  match estimation.strategy with
  | .exact =>
    Counting.emit [.event (.countingExactly plan.sampleSize totalHits)]
    let facets ← secureFacets backend visibility query plan.batchSize limit
    Counting.emit { estimation with facetCount := facets.size }.signals
    return facets
  | .sampled =>
    let (sampled, accessible) ← checkSample backend visibility query plan totalHits
    let facets := table.mapValues (rescale plan.sampleSize accessible)
    Counting.emit { estimation with sampled, accessible, facetCount := facets.size }.signals
    return facets

def facetsIn [Memory] (mode : Mode) (backend : Backend σ) (visibility : Visibility τ)
    (query : Query) (plan : SamplePlan) (snapshot : Option Snapshot) :
    Except Error (Nat → Counting σ τ FacetTable) :=
  plan.validate.map fun _ limit =>
    match mode with
    | .secure => secureFacets backend visibility query plan.batchSize limit
    | .statistical => statisticalFacets backend visibility query plan snapshot limit
    | .insecure => insecureFacets backend query snapshot limit

end VisibleFacets
