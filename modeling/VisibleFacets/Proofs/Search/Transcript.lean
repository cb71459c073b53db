import VisibleFacets.Proofs.Sampling.Reading
import VisibleFacets.Search.Pager

/-!
# What reading a query tells

A `Transcript` is written down page by page from the backend's answers alone. A pager tells it hit
by hit and then ends or fails as it does: `Follows.next_cons` and `Follows.next_nil` are the steps,
`Follows.gives` the reading of hits in a row.
-/

namespace VisibleFacets

variable {σ : Type}

/-- The hits of the pages from an offset on, up to and including the first page with fewer hits than
asked for, each with what was observed when its page had come; the failure, if a fetch failed; and
what was observed in the end. -/
inductive Transcript (backend : Backend σ) (query : Query) (batchSize : Nat) :
    Nat → Observed σ → List (Hit × Observed σ) → Option Error → Observed σ → Prop
  | short {offset : Nat} {observed : Observed σ} {page : Page} {state : σ}
      (fetched : backend.fetchPage query batchSize offset observed.state = (.ok page, state))
      (few : page.hits.length < batchSize) :
      Transcript backend query batchSize offset observed
        (page.hits.map (·, observed.receive page batchSize offset state)) none
        (observed.receive page batchSize offset state)
  | failed {offset : Nat} {observed : Observed σ} {error : Error} {state : σ}
      (fetched : backend.fetchPage query batchSize offset observed.state = (.error error, state)) :
      Transcript backend query batchSize offset observed [] (some error) { observed with state }
  | full {offset : Nat} {observed : Observed σ} {page : Page} {state : σ}
      (fetched : backend.fetchPage query batchSize offset observed.state = (.ok page, state))
      (many : batchSize ≤ page.hits.length) {hits : List (Hit × Observed σ)}
      {failure : Option Error} {last : Observed σ}
      (rest : Transcript backend query batchSize (offset + batchSize)
        (observed.receive page batchSize offset state) hits failure last) :
      Transcript backend query batchSize offset observed
        (page.hits.map (·, observed.receive page batchSize offset state) ++ hits) failure last

/-- What was observed when the last of these hits had come. -/
def reached (observed : Observed σ) (hits : List (Hit × Observed σ)) : Observed σ :=
  hits.foldl (fun _ entry => entry.2) observed

@[simp] theorem reached_nil (observed : Observed σ) : reached observed [] = observed := rfl

@[simp] theorem reached_cons (observed : Observed σ) (entry : Hit × Observed σ)
    (hits : List (Hit × Observed σ)) : reached observed (entry :: hits) = reached entry.2 hits := rfl

theorem Page.isShort_eq_true_iff {page : Page} {batchSize : Nat} (positive : 0 < batchSize) :
    page.isShort batchSize = true ↔ page.hits.length < batchSize := by
  rw [isShort, Bool.or_eq_true, List.isEmpty_iff, decide_eq_true_eq]
  apply or_iff_right_of_imp
  intro empty
  rw [empty]
  exact positive

namespace Pager

/-- The pager has these hits still to tell, and then the failure or the end. -/
inductive Follows (backend : Backend σ) (query : Query) (pager : Pager) (observed : Observed σ) :
    List (Hit × Observed σ) → Option Error → Observed σ → Prop
  | stopping (stopped : (pager.lastPage || pager.done) = true) :
      Follows backend query pager observed (pager.pending.map (·, observed)) none observed
  | reading (going : (pager.lastPage || pager.done) = false) {hits : List (Hit × Observed σ)}
      {failure : Option Error} {last : Observed σ}
      (rest : Transcript backend query pager.batchSize pager.offset observed hits failure last) :
      Follows backend query pager observed (pager.pending.map (·, observed) ++ hits) failure last

variable {backend : Backend σ} {query : Query} {pager : Pager} {observed last : Observed σ}
  {hits : List (Hit × Observed σ)} {failure : Option Error}

theorem Follows.start {batchSize : Nat}
    (transcript : Transcript backend query batchSize 0 observed hits failure last) :
    Follows backend query (.start batchSize) observed hits failure last :=
  .reading rfl transcript

/-! ## One call -/

theorem next_pending {hit : Hit} {rest : List Hit} (pending : pager.pending = hit :: rest) :
    pager.next backend query observed =
      (some (.ok hit), { pager with pending := rest }, observed) := by
  simp [next, tell, pending]

theorem next_stopped (empty : pager.pending = [])
    (stopped : (pager.lastPage || pager.done) = true) :
    pager.next backend query observed = (none, { pager with done := true }, observed) := by
  rcases Bool.or_eq_true _ _ ▸ stopped with stopped | stopped <;>
    simp [next, tell, empty, stopped]

theorem next_failed (empty : pager.pending = [])
    (going : (pager.lastPage || pager.done) = false) {error : Error} {state : σ}
    (fetched : backend.fetchPage query pager.batchSize pager.offset observed.state =
      (.error error, state)) :
    pager.next backend query observed =
      (some (.error error), { pager with done := true }, { observed with state }) := by
  obtain ⟨notLast, notDone⟩ := Bool.or_eq_false_iff.mp going
  simp [next, empty, notLast, notDone, fetched]

theorem next_fetched (empty : pager.pending = [])
    (going : (pager.lastPage || pager.done) = false) {page : Page} {state : σ}
    (fetched : backend.fetchPage query pager.batchSize pager.offset observed.state =
      (.ok page, state)) :
    pager.next backend query observed =
      (pager.receive page).next backend query
        (observed.receive page pager.batchSize pager.offset state) := by
  obtain ⟨notLast, notDone⟩ := Bool.or_eq_false_iff.mp going
  rw [next]
  simp only [empty, notLast, notDone, fetched]
  cases hits : page.hits with
  | cons hit rest =>
    rw [next_pending (by exact hits)]
    simp [tell, receive, hits]
  | nil =>
    have short : page.isShort pager.batchSize = true := by simp [Page.isShort, hits]
    rw [next_stopped (by exact hits) (by simp [receive, short])]
    simp [tell, receive, hits]

/-- What one call gives a follower: the first of its hits, or else the failure or the end. -/
def Tells (backend : Backend σ) (query : Query) (pager : Pager) (observed : Observed σ)
    (failure : Option Error) (last : Observed σ) : List (Hit × Observed σ) → Prop
  | [] => ∃ after, pager.next backend query observed = (failure.map .error, after, last)
  | (hit, seen) :: rest => ∃ after, pager.next backend query observed =
      (some (.ok hit), after, seen) ∧ Follows backend query after seen rest failure last ∧
      after.batchSize = pager.batchSize

theorem Follows.tells_at_hand
    (follows : Follows backend query pager observed hits failure last)
    (atHand : pager.pending = [] → (pager.lastPage || pager.done) = true) :
    Tells backend query pager observed failure last hits := by
  cases pending : pager.pending with
  | cons hit rest =>
    have told : pager.next backend query observed = _ := next_pending pending
    cases follows with
    | stopping stopped =>
      rw [pending]
      exact ⟨_, told, .stopping stopped, rfl⟩
    | reading going later =>
      rw [pending, List.map_cons, List.cons_append]
      exact ⟨_, told, @Follows.reading _ _ _ { pager with pending := rest } _ going _ _ _ later, rfl⟩
  | nil =>
    have stopped := atHand pending
    cases follows with
    | stopping _ =>
      rw [pending]
      exact ⟨_, next_stopped pending stopped⟩
    | reading going _ =>
      rw [stopped] at going
      contradiction

theorem Tells.of_next_eq {other : Pager} {seen : Observed σ}
    (tells : Tells backend query other seen failure last hits)
    (same : pager.next backend query observed = other.next backend query seen)
    (size : other.batchSize = pager.batchSize) :
    Tells backend query pager observed failure last hits := by
  cases hits with
  | nil => simpa only [Tells, same] using tells
  | cons entry rest => simpa only [Tells, same, size] using tells

theorem Follows.tells (positive : 0 < pager.batchSize)
    (follows : Follows backend query pager observed hits failure last) :
    Tells backend query pager observed failure last hits := by
  by_cases atHand : pager.pending = [] → (pager.lastPage || pager.done) = true
  · exact follows.tells_at_hand atHand
  obtain ⟨empty, going⟩ := Classical.not_imp.mp atHand
  cases follows with
  | stopping stopped => exact absurd stopped going
  | reading going rest =>
    rw [empty]
    cases rest with
    | failed fetched => exact ⟨_, next_failed empty going fetched⟩
    | @short _ _ page state fetched few =>
      have short := (Page.isShort_eq_true_iff positive).mpr few
      have stopped : ((pager.receive page).lastPage || (pager.receive page).done) = true := by
        simp [receive, short]
      exact Tells.of_next_eq (Follows.tells_at_hand (.stopping stopped) fun _ => stopped)
        (next_fetched empty going fetched) rfl
    | @full _ _ page state fetched many hits failure last rest =>
      have long : page.isShort pager.batchSize = false := by
        rw [← Bool.not_eq_true, Page.isShort_eq_true_iff positive]
        omega
      have goingOn : ((pager.receive page).lastPage || (pager.receive page).done) = false := by
        simpa [receive, long] using (Bool.or_eq_false_iff.mp going).2
      have offset : (pager.receive page).offset = pager.offset + pager.batchSize := by
        simp [receive, long]
      have nonempty : (pager.receive page).pending ≠ [] := fun none => by
        have none : page.hits = [] := none
        rw [none, List.length_nil] at many
        omega
      exact Tells.of_next_eq
        (Follows.tells_at_hand (.reading goingOn (offset ▸ rest)) fun none => absurd none nonempty)
        (next_fetched empty going fetched) rfl

/-! ## Calls in a row -/

theorem source_next : (source backend query).next (pager, observed) =
    pager.next backend query observed := rfl

theorem Follows.gives {before after : List (Hit × Observed σ)} (positive : 0 < pager.batchSize)
    (follows : Follows backend query pager observed (before ++ after) failure last) :
    ∃ next, (source backend query).Gives (pager, observed) (before.map Prod.fst)
        (next, reached observed before) ∧
      Follows backend query next (reached observed before) after failure last ∧
      0 < next.batchSize := by
  induction before generalizing pager observed with
  | nil => exact ⟨pager, .nil, follows, positive⟩
  | cons entry before ih =>
    obtain ⟨told, same, followsRest, size⟩ := follows.tells positive
    obtain ⟨next, gives, followsAfter, positive⟩ := ih (size ▸ positive) followsRest
    exact ⟨next, .cons (source_next.trans same) gives, followsAfter, positive⟩

theorem Follows.next_nil (positive : 0 < pager.batchSize)
    (follows : Follows backend query pager observed [] failure last) :
    ∃ after, (source backend query).next (pager, observed) =
      (failure.map .error, after, last) := by
  obtain ⟨after, same⟩ := follows.tells positive
  exact ⟨after, source_next.trans same⟩

theorem Follows.next_cons (positive : 0 < pager.batchSize) {hit : Hit} {seen : Observed σ}
    (follows : Follows backend query pager observed ((hit, seen) :: hits) failure last) :
    ∃ after, (source backend query).next (pager, observed) = (some (.ok hit), after, seen) := by
  obtain ⟨after, same, -⟩ := follows.tells positive
  exact ⟨after, source_next.trans same⟩

/-- A new pager gives the hits of a transcript, and then the failure or the end. -/
theorem gives_transcript {batchSize : Nat} (positive : 0 < batchSize)
    (transcript : Transcript backend query batchSize 0 observed hits failure last) :
    ∃ pager after, (source backend query).Gives (.start batchSize, observed) (hits.map Prod.fst)
        (pager, reached observed hits) ∧
      pager.next backend query (reached observed hits) = (failure.map .error, after, last) := by
  have follows := Follows.start transcript
  rw [← List.append_nil hits] at follows
  obtain ⟨pager, gives, followsNil, positive⟩ := follows.gives positive
  obtain ⟨after, ended⟩ := followsNil.next_nil positive
  exact ⟨pager, after, gives, ended⟩

end Pager

end VisibleFacets
