import VisibleFacets.Proofs.Sampling.Coupling
import VisibleFacets.Search.Pager

/-!
# Pagers over coupled backends

Pagers over coupled backends are coupled (`Pager.source_steps`). Where nothing stops the second
backend they tell the same (`Pager.next_along`).
-/

namespace VisibleFacets

variable {σ ρ : Type}

/-- Whatever one of the backends is asked, the other keeps up. -/
structure Backend.Couples (coupling : Coupling Error σ ρ) (first : Backend σ) (second : Backend ρ) :
    Prop where
  fetchPage (query : Query) (batchSize offset : Nat) :
    coupling.Steps .error (first.fetchPage query batchSize offset)
      (second.fetchPage query batchSize offset)
  aggregate (query : Query) (limit : Nat) :
    coupling.Steps .error (first.aggregate query limit) (second.aggregate query limit)

namespace Coupling

/-- Signals are left out of account. -/
def observed (coupling : Coupling Error σ ρ) : Coupling Error (Observed σ) (Observed ρ) where
  related first second := coupling.related first.state second.state
  beyond first := coupling.beyond first.state
  stopped error second := coupling.stopped error second.state

def Endless (coupling : Coupling Error σ ρ) : Prop :=
  ∀ error other, ¬ coupling.stopped error other

end Coupling

namespace Pager

variable {coupling : Coupling Error σ ρ} {first : Backend σ} {second : Backend ρ}

theorem source_steps (couples : Backend.Couples coupling first second) (query : Query) :
    (coupling.observed.beside Pager).Steps (some ∘ .error) (source first query).next
      (source second query).next where
  keepsUp := by
    rintro ⟨pager, state⟩ ⟨_, other⟩ ⟨rfl, related⟩
    have fetches := couples.fetchPage query pager.batchSize pager.offset
    simp only [source, next]
    split
    case isFalse => exact .along ⟨rfl, related⟩
    case isTrue =>
      rcases told : first.fetchPage query pager.batchSize pager.offset state.state with
        ⟨answer, next⟩
      rcases fetches.along_or_short related told with ⟨follower, heard, related⟩ |
        ⟨error, follower, heard, beyond, stopped⟩
      · rw [heard]
        cases answer with
        | error error => exact .along ⟨rfl, related⟩
        | ok page => exact .along ⟨rfl, related⟩
      · rw [heard]
        cases answer with
        | error error => exact .short beyond stopped
        | ok page => exact .short beyond stopped
  beyond := by
    rintro ⟨pager, state⟩ beyond
    have fetches := couples.fetchPage query pager.batchSize pager.offset
    simp only [source, next]
    split
    case isFalse => exact beyond
    case isTrue =>
      rcases told : first.fetchPage query pager.batchSize pager.offset state.state with
        ⟨_ | page, next⟩
      case error => exact fetches.beyond_next beyond told
      case ok => exact fetches.beyond_next beyond told

theorem next_along (couples : Backend.Couples coupling first second) (endless : coupling.Endless)
    {query : Query} {pager after : Pager} {observed seen : Observed σ} {other : Observed ρ}
    {item : Option (Except Error Hit)} (related : coupling.related observed.state other.state)
    (told : pager.next first query observed = (item, after, seen)) :
    ∃ follower, pager.next second query other = (item, after, follower) ∧
      coupling.related seen.state follower.state := by
  have start : (coupling.observed.beside Pager).related (pager, observed) (pager, other) :=
    ⟨rfl, related⟩
  have told : (source first query).next (pager, observed) = (item, after, seen) := told
  rcases (source_steps couples query).along_or_short start told with
    ⟨⟨_, follower⟩, heard, rfl, related⟩ | ⟨_, _, _, _, stopped⟩
  · exact ⟨follower, heard, related⟩
  · exact absurd stopped (endless _ _)

end Pager

end VisibleFacets
