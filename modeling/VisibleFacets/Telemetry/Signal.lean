import VisibleFacets.Json.Basic

/-!
# What a run reports

A run emits signals, each an event of the log or a measurement. Main definitions: `Signal`,
`Measurements.ofSignals`.
-/

namespace VisibleFacets

inductive Strategy where
  | exact
  | sampled
  deriving DecidableEq, Repr, Inhabited

namespace Strategy

/-- Sampling needs at least as many hits as the sample. -/
def choose (totalHits sampleSize : Nat) : Strategy :=
  if totalHits < sampleSize then .exact else .sampled

def name : Strategy → String
  | exact => "exact"
  | sampled => "sampled"

end Strategy

structure Estimation where
  strategy : Strategy
  totalHits : Nat
  sampleSize : Nat
  sampled : Nat := 0
  accessible : Nat := 0
  facetCount : Nat := 0
  deriving DecidableEq, Repr, Inhabited

namespace Estimation

def sampledDocuments (estimation : Estimation) : Option Nat :=
  match estimation.strategy with
  | .sampled => some estimation.sampled
  | .exact => none

/-- Whether the sample stayed below what was asked for and what was promised. -/
def isShort (estimation : Estimation) : Bool :=
  match estimation.sampledDocuments with
  | some sampled => sampled < min estimation.sampleSize estimation.totalHits
  | none => false

end Estimation

inductive Level where
  | debug
  | info
  | warn
  deriving DecidableEq, Repr

def Level.name : Level → String
  | debug => "DEBUG"
  | info => "INFO"
  | warn => "WARN"

inductive Event where
  | askingBackend (query : String)
  | shortPage (offset returned batchSize : Nat)
  | secureComplete (checked visible : Nat)
  | countingExactly (sampleSize totalHits : Nat)
  | sampling (sampleSize totalHits : Nat)
  | checkingAll (sampleSize totalHits : Nat)
  | estimated (estimation : Estimation)
  | shortSample (sampled sampleSize totalHits : Nat)
  deriving DecidableEq, Repr

namespace Event

def level : Event → Level
  | askingBackend _ => .warn
  | estimated _ => .info
  | _ => .debug

def message : Event → String
  | askingBackend _ => "Facets and total hit count are being retrieved from the search backend"
  | shortPage .. => "Short page, end of results"
  | secureComplete .. => "Secure facet count complete"
  | countingExactly .. => "Sample size exceeds hit count, counting facets exactly"
  | sampling .. => "Sampling matching documents"
  | checkingAll .. => "Sample covers every hit, checking all"
  | estimated _ => "Facets estimated"
  | shortSample .. => "Sample smaller than requested, counts may be biased low"

def fields : Event → List (String × Json)
  | askingBackend query => [("query", .string query)]
  | shortPage offset returned batchSize =>
    [("offset", .ofNat offset), ("returned", .ofNat returned), ("batch_size", .ofNat batchSize)]
  | secureComplete checked visible => [("checked", .ofNat checked), ("visible", .ofNat visible)]
  | countingExactly sampleSize totalHits
  | sampling sampleSize totalHits
  | checkingAll sampleSize totalHits =>
    [("sample_size", .ofNat sampleSize), ("total_hits", .ofNat totalHits)]
  | estimated estimation =>
    [("strategy", .string estimation.strategy.name), ("total_hits", .ofNat estimation.totalHits),
     ("sample_size", .ofNat estimation.sampleSize), ("sampled", .ofNat estimation.sampled),
     ("accessible", .ofNat estimation.accessible), ("facet_count", .ofNat estimation.facetCount)]
  | shortSample sampled sampleSize totalHits =>
    [("sampled", .ofNat sampled), ("sample_size", .ofNat sampleSize),
     ("total_hits", .ofNat totalHits)]

end Event

inductive Measurement where
  | pageFetched
  | estimation (strategy : Strategy)
  | sampledDocuments (count : Nat)
  deriving DecidableEq, Repr

inductive Signal where
  | event (entry : Event)
  | measurement (made : Measurement)
  deriving DecidableEq, Repr

namespace Signal

def event? : Signal → Option Event
  | .event entry => some entry
  | .measurement _ => none

def measurement? : Signal → Option Measurement
  | .event _ => none
  | .measurement made => some made

end Signal

/-- What a finished estimation reports: its counters, its record, and a warning if its sample stayed
short. -/
def Estimation.signals (estimation : Estimation) : List Signal :=
  [.measurement (.estimation estimation.strategy)] ++
  (estimation.sampledDocuments.toList.map fun count => .measurement (.sampledDocuments count)) ++
  [.event (.estimated estimation)] ++
  (if estimation.isShort then
    [.event (.shortSample estimation.sampled estimation.sampleSize estimation.totalHits)]
   else [])

/-- Recorded values are doubles: above `2 ^ 53` they lose their last bits. -/
def recordedValue (count : Nat) : Nat :=
  min Text.maxWord ((BinaryFormat.double.ofNat count).elim 0 Magnitude.floor)

structure Measurements where
  pagesFetched : Nat
  exactEstimations : Nat
  sampledEstimations : Nat
  sampledDocuments : List Nat
  deriving DecidableEq, Repr

namespace Measurements

def ofSignals (signals : List Signal) : Measurements :=
  let measurements := signals.filterMap Signal.measurement?
  { pagesFetched := measurements.count .pageFetched
    exactEstimations := measurements.count (.estimation .exact)
    sampledEstimations := measurements.count (.estimation .sampled)
    sampledDocuments := measurements.filterMap fun
      | .sampledDocuments count => some (recordedValue count)
      | _ => none }

def counter (name : String) (count : Nat) : List (String × Json) :=
  if count = 0 then [] else [(name, .ofNat count)]

def named (measurements : Measurements) : List (String × Json) :=
  counter "statfacet_pages_fetched_total" measurements.pagesFetched ++
  counter "statfacet_estimations_total\x7bstrategy=exact\x7d" measurements.exactEstimations ++
  counter "statfacet_estimations_total\x7bstrategy=sampled\x7d" measurements.sampledEstimations ++
  (if measurements.sampledDocuments = [] then []
   else [("statfacet_sampled_documents",
     .array (measurements.sampledDocuments.map .ofNat))])

end Measurements

end VisibleFacets
