import VisibleFacets.Proofs.Search.Pages

/-!
# Calls of a backend

A recorded backend answers as before and writes down the calls it is asked. What is read from the
pages of a query can then be told by the calls: `Backend.Serves.recorded`.
-/

namespace VisibleFacets

variable {σ : Type}

inductive Call where
  | fetch (query : Query) (batchSize offset : Nat)
  | aggregation (query : Query) (limit : Nat)
  deriving DecidableEq, Repr

/-- The same backend, which also writes down the calls it is asked. -/
def Backend.recorded (backend : Backend σ) : Backend (σ × List Call) where
  fetchPage query batchSize offset state :=
    let (answer, next) := backend.fetchPage query batchSize offset state.1
    (answer, next, state.2 ++ [.fetch query batchSize offset])
  aggregate query limit state :=
    let (answer, next) := backend.aggregate query limit state.1
    (answer, next, state.2 ++ [.aggregation query limit])

theorem Backend.recorded_fetchPage {backend : Backend σ} {query : Query} {batchSize offset : Nat}
    {state next : σ} {answer : Except Error Page}
    (fetched : backend.fetchPage query batchSize offset state = (answer, next))
    (calls : List Call) :
    backend.recorded.fetchPage query batchSize offset (state, calls) =
      (answer, next, calls ++ [.fetch query batchSize offset]) := by
  simp only [recorded, fetched]

/-- The fetches of the first pages of a query. -/
def Call.pages (query : Query) (batchSize fetches : Nat) : List Call :=
  (List.range fetches).map fun page => .fetch query batchSize (page * batchSize)

theorem Call.pages_succ (query : Query) (batchSize fetches : Nat) :
    pages query batchSize (fetches + 1) =
      pages query batchSize fetches ++ [.fetch query batchSize (fetches * batchSize)] := by
  rw [pages, List.range_succ, List.map_append]
  rfl

theorem Backend.Serves.recorded {backend : Backend σ} {query : Query} {batchSize : Nat}
    {all : List Hit} {served : Nat → σ} (serves : backend.Serves query batchSize all served)
    (calls : List Call) :
    backend.recorded.Serves query batchSize all
      fun fetches => (served fetches, calls ++ Call.pages query batchSize fetches) := by
  intro fetches
  have page := Backend.recorded_fetchPage (serves fetches) (calls ++ Call.pages query batchSize fetches)
  rwa [List.append_assoc, ← Call.pages_succ] at page

end VisibleFacets
