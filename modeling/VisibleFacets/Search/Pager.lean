import VisibleFacets.Search.Backend
import VisibleFacets.Sampling.Source
import VisibleFacets.Telemetry.Signal

/-!
# Reading a query's hits page by page

A pager fetches a page only when a hit is asked for and none is left. A page with fewer hits than
asked for, or with none, is the last; a failed fetch is told once and also ends the reading. Main
definitions: `Pager.next`, `Pager.source`.
-/

namespace VisibleFacets

def Page.isShort (page : Page) (batchSize : Nat) : Bool :=
  page.hits.isEmpty || page.hits.length < batchSize

def Page.signals (page : Page) (batchSize offset : Nat) : List Signal :=
  .measurement .pageFetched ::
    (if page.isShort batchSize then
      [.event (.shortPage offset page.hits.length batchSize)]
     else [])

/-- A backend's state together with the signals emitted on the way to it. -/
structure Observed (σ : Type) where
  state : σ
  signals : List Signal := []

namespace Observed

variable {σ : Type}

def receive (observed : Observed σ) (page : Page) (batchSize offset : Nat) (state : σ) :
    Observed σ :=
  { state, signals := observed.signals ++ page.signals batchSize offset }

end Observed

structure Pager where
  batchSize : Nat
  offset : Nat := 0
  /-- The hits of the latest page that are still to be told. -/
  pending : List Hit := []
  lastPage : Bool := false
  done : Bool := false
  pagesFetched : Nat := 0
  /-- The number of hits that the latest page claims for the query. -/
  totalHits : Option Nat := none
  deriving Inhabited

namespace Pager

variable {σ : Type}

def start (batchSize : Nat) : Pager := { batchSize }

def receive (pager : Pager) (page : Page) : Pager :=
  let short := page.isShort pager.batchSize
  { pager with
    offset := if short then pager.offset else pager.offset + pager.batchSize
    pending := page.hits
    lastPage := short
    pagesFetched := pager.pagesFetched + 1
    totalHits := some page.totalHits }

def tell (pager : Pager) : Option (Except Error Hit) × Pager :=
  match pager.pending with
  | hit :: rest => (some (.ok hit), { pager with pending := rest })
  | [] => (none, { pager with done := true })

def next (backend : Backend σ) (query : Query) (pager : Pager) (observed : Observed σ) :
    Option (Except Error Hit) × Pager × Observed σ :=
  if pager.pending.isEmpty && !pager.done && !pager.lastPage then
    match backend.fetchPage query pager.batchSize pager.offset observed.state with
    | (.error error, state) =>
      (some (.error error), { pager with done := true }, { observed with state })
    | (.ok page, state) =>
      let (item, told) := (pager.receive page).tell
      (item, told, observed.receive page pager.batchSize pager.offset state)
  else
    let (item, told) := pager.tell
    (item, told, observed)

def source (backend : Backend σ) (query : Query) : Source (Pager × Observed σ) Error Hit where
  next state :=
    let (item, pager, observed) := next backend query state.1 state.2
    (item, pager, observed)

def take (backend : Backend σ) (query : Query) :
    Nat → Pager → Observed σ → List (Option (Except Error Hit)) × Pager × Observed σ
  | 0, pager, observed => ([], pager, observed)
  | count + 1, pager, observed =>
    let (item, pager, observed) := next backend query pager observed
    let (items, pager, observed) := take backend query count pager observed
    (item :: items, pager, observed)

structure Drained where
  count : Nat := 0
  last : Option Hit := none
  failure : Option Error := none

/-- Reads to the end, counting the hits and keeping the last one; `none` if there is no end. -/
def drain (backend : Backend σ) (query : Query) (pager : Pager) (observed : Observed σ) :
    Option (Drained × Pager × Observed σ) :=
  let step (hit : Hit) (drained : Drained) : Except Error Unit × Drained :=
    (.ok (), { drained with count := drained.count + 1, last := some hit })
  match (source backend query).drain step {} (pager, observed) with
  | none => none
  | some (.ok (), drained, pager, observed) => some (drained, pager, observed)
  | some (.error error, drained, pager, observed) =>
    some ({ drained with failure := some error }, pager, observed)

end Pager

end VisibleFacets
