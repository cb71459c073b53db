import Mathlib.Data.List.Induction
import VisibleFacets.Proofs.Search.Calls

/-!
# Reading a query to its end

A pager that told the end or a failure is finished (`Pager.finished_of_next`), and tells nothing
more. On a corpus, any number of calls tell the matching documents in order and then the end, for
the fetches that hold them: `Corpus.pager_reads`.
-/

namespace VisibleFacets

variable {σ : Type}

namespace Pager

variable {backend : Backend σ} {query : Query} {pager after : Pager} {observed seen last : Observed σ}
  {hits : List (Hit × Observed σ)} {failure : Option Error}

/-! ## After the end -/

def Finished (pager : Pager) : Prop :=
  pager.pending = [] ∧ (pager.lastPage || pager.done) = true

theorem finished_of_tell {item : Option (Except Error Hit)} (told : pager.tell = (item, after))
    (without : ∀ hit, item ≠ some (.ok hit)) : after.Finished := by
  unfold tell at told
  split at told
  · obtain ⟨rfl, -⟩ := Prod.mk.inj told
    exact absurd rfl (without _)
  · obtain ⟨-, rfl⟩ := Prod.mk.inj told
    exact ⟨‹_›, Bool.or_true _⟩

theorem finished_of_next {item : Option (Except Error Hit)}
    (told : pager.next backend query observed = (item, after, seen))
    (without : ∀ hit, item ≠ some (.ok hit)) : after.Finished := by
  unfold next at told
  split at told
  case isTrue fetching =>
    split at told
    · obtain ⟨-, rfl, -⟩ : _ ∧ _ ∧ _ := by simpa using told
      have empty : pager.pending = [] := by simp_all
      exact ⟨empty, Bool.or_true _⟩
    · obtain ⟨same, rfl, -⟩ : _ ∧ _ ∧ _ := by simpa using told
      exact finished_of_tell (Prod.ext same rfl) without
  case isFalse =>
    obtain ⟨same, rfl, -⟩ : _ ∧ _ ∧ _ := by simpa using told
    exact finished_of_tell (Prod.ext same rfl) without

theorem take_finished (finished : pager.Finished) (count : Nat) :
    ∃ after, take backend query count pager observed =
      (List.replicate count none, after, observed) := by
  induction count generalizing pager with
  | zero => exact ⟨pager, rfl⟩
  | succ count ih =>
    have ended : pager.next backend query observed = _ := next_stopped finished.1 finished.2
    obtain ⟨after, rest⟩ := ih (finished_of_next ended fun _ told => nomatch told)
    refine ⟨after, ?_⟩
    rw [take, ended]
    simp only [rest]
    rfl

/-! ## Calls in a row -/

theorem take_succ_of_next {count : Nat} {items : List (Option (Except Error Hit))} {middle : Pager}
    {item : Option (Except Error Hit)}
    (taken : take backend query count pager observed = (items, middle, seen))
    (told : middle.next backend query seen = (item, after, last)) :
    take backend query (count + 1) pager observed = (items ++ [item], after, last) := by
  induction count generalizing pager observed items with
  | zero =>
    cases taken
    simp only [take, told]
    rfl
  | succ count ih =>
    rcases first : pager.next backend query observed with ⟨hit, next, reached⟩
    rcases rest : take backend query count next reached with ⟨later, stopped, left⟩
    rw [take, first] at taken
    simp only [rest] at taken
    cases taken
    rw [take, first]
    simp only [ih rest]
    rfl

theorem take_of_gives {items : List Hit}
    (gives : (source backend query).Gives (pager, observed) items (after, seen)) (count : Nat) :
    take backend query (items.length + count) pager observed =
      ((items.map fun hit => some (.ok hit)) ++ (take backend query count after seen).1,
        (take backend query count after seen).2) := by
  induction items generalizing pager observed with
  | nil =>
    cases gives
    rw [List.length_nil, Nat.zero_add, List.map_nil, List.nil_append]
  | cons hit items ih =>
    cases gives with
    | @cons _ _ _ middle _ told rest =>
      have told : pager.next backend query observed = (some (.ok hit), middle) := told
      rw [List.length_cons, Nat.add_right_comm, take, told]
      simp only [ih rest]
      rfl

abbrev Drained.add (drained : Drained) (hit : Hit) : Drained :=
  { drained with count := drained.count + 1, last := some hit }

theorem Drained.foldl_add (hits : List Hit) :
    hits.foldl add {} = ⟨hits.length, hits.getLast?, none⟩ := by
  induction hits using List.reverseRecOn with
  | nil => rfl
  | append_singleton hits hit ih =>
    rw [List.foldl_append, ih]
    simp

theorem drain_of_gives {items : List Hit}
    (gives : (source backend query).Gives (pager, observed) items (after, seen))
    {finished : Pager} (ended : after.next backend query seen = (none, finished, last)) :
    drain backend query pager observed =
      some (⟨items.length, items.getLast?, none⟩, finished, last) := by
  have accepts : Source.Accepts
      (fun hit (drained : Drained) => (Except.ok (ε := Error) (), drained.add hit))
      {} items (items.foldl Drained.add {}) :=
    .of_total (fun _ _ => rfl) items _
  rw [drain, Source.drain_append gives accepts, Source.drain_end ended, Drained.foldl_add]

/-- What so many calls tell where these are the hits. -/
def tellings (all : List Hit) (count : Nat) : List (Option (Except Error Hit)) :=
  (List.range count).map fun index => (all[index]?).map .ok

theorem tellings_eq (all : List Hit) (count : Nat) :
    tellings all count = ((all.take count).map fun hit => some (.ok hit)) ++
      List.replicate (count - all.length) none := by
  induction count generalizing all with
  | zero => rw [Nat.zero_sub]; rfl
  | succ count ih =>
    rw [tellings, List.range_succ_eq_map, List.map_cons, List.map_map]
    cases all with
    | nil =>
      have rest := ih []
      simp_all [tellings, Function.comp_def, List.replicate_succ]
    | cons hit all =>
      have rest := ih all
      simp_all [tellings, Function.comp_def]

theorem take_of_le {all : List Hit} {batchSize count : Nat} {served : Nat → σ}
    (positive : 0 < batchSize)
    (transcript : Transcript backend query batchSize 0 observed hits none last)
    (told : Told all batchSize served observed hits last) (within : count ≤ all.length) :
    ∃ after seen, take backend query count (.start batchSize) observed =
      (tellings all count, after, seen) ∧ seen.state = served (count ⌈/⌉ batchSize) := by
  have follows := Follows.start transcript
  rw [← List.take_append_drop count hits] at follows
  obtain ⟨after, gives, -⟩ := follows.gives positive
  rw [List.map_take, told.order] at gives
  have taken := take_of_gives gives 0
  rw [Nat.add_zero, List.length_take_of_le within] at taken
  refine ⟨after, _, ?_, told.cost count within⟩
  rw [taken, tellings_eq, Nat.sub_eq_zero_of_le within]
  rfl

/-- A new pager tells these hits and then the end. -/
def ReadsAll (backend : Backend σ) (query : Query) (batchSize : Nat) (observed : Observed σ)
    (hits : List Hit) (last : Observed σ) : Prop :=
  ∃ pager seen finished,
    (source backend query).Gives (.start batchSize, observed) hits (pager, seen) ∧
    pager.next backend query seen = (none, finished, last)

theorem gives_to_end {all : List Hit} {batchSize : Nat} {served : Nat → σ}
    (positive : 0 < batchSize)
    (transcript : Transcript backend query batchSize 0 observed hits none last)
    (told : Told all batchSize served observed hits last) :
    ∃ after finished,
      (source backend query).Gives (.start batchSize, observed) all (after, reached observed hits) ∧
      after.next backend query (reached observed hits) = (none, finished, last) ∧
      finished.Finished := by
  obtain ⟨after, finished, gives, ended⟩ := gives_transcript positive transcript
  rw [told.order] at gives
  exact ⟨after, finished, gives, ended, finished_of_next ended fun _ same => nomatch same⟩

theorem take_of_lt {all : List Hit} {batchSize count : Nat} {served : Nat → σ}
    (positive : 0 < batchSize)
    (transcript : Transcript backend query batchSize 0 observed hits none last)
    (told : Told all batchSize served observed hits last) (beyond : all.length < count) :
    ∃ after seen, take backend query count (.start batchSize) observed =
      (tellings all count, after, seen) ∧ seen.state = served (all.length / batchSize + 1) := by
  obtain ⟨reader, finished, gives, ended, silent⟩ := gives_to_end positive transcript told
  obtain ⟨more, rfl⟩ := Nat.exists_eq_add_of_lt beyond
  obtain ⟨after, rest⟩ : ∃ after, take backend query more finished last =
      (List.replicate more none, after, last) := take_finished silent more
  refine ⟨after, last, ?_, told.ended⟩
  have surplus : all.length + more + 1 - all.length = more + 1 := by omega
  rw [Nat.add_assoc, take_of_gives gives, take, ended, tellings_eq, ← Nat.add_assoc, surplus,
    List.take_of_length_le (Nat.le_of_lt beyond)]
  simp only [rest]
  rfl

end Pager

/-! ## Corpora -/

namespace Corpus

variable {query : Query} {terms : List Term} {batchSize : Nat}

/-- How many pages so many calls fetch. The last page is short of hits, if only by being empty, and
is asked for only when the hits have run out. -/
def pagesRead (matched batchSize calls : Nat) : Nat :=
  if calls ≤ matched then calls ⌈/⌉ batchSize else matched / batchSize + 1

/-- The state of a recorded corpus after so many pages of a query from the first on. -/
def served (query : Query) (batchSize : Nat) (state : Usage × List Call) (pages : Nat) :
    Usage × List Call :=
  (state.1.fetched pages, state.2 ++ Call.pages query batchSize pages)

theorem serves_recorded [Memory] {corpus : Corpus} (steady : corpus.failAfterPages = none)
    (parsed : Query.terms query.text.toList = .ok terms) (batchSize : Nat)
    (state : Usage × List Call) :
    corpus.backend.recorded.Serves query batchSize (corpus.hits terms)
      (served query batchSize state) :=
  (corpus.serves steady parsed batchSize state.1).recorded state.2

theorem served_zero (state : Usage × List Call) : served query batchSize state 0 = state :=
  Prod.ext rfl (List.append_nil _)

/-- Any number of calls of a pager tell the matching documents, each once and in their order, and
from then on the end. They fetch the pages that hold what is told, one after the other, and past the
last document one page that is short. A loop over the pager reads them all. -/
theorem pager_reads [Memory] {corpus : Corpus} (steady : corpus.failAfterPages = none)
    (parsed : Query.terms query.text.toList = .ok terms) (positive : 0 < batchSize)
    (observed : Observed (Usage × List Call)) :
    (∀ calls, ∃ after seen,
      Pager.take corpus.backend.recorded query calls (.start batchSize) observed =
        ((List.range calls).map fun index =>
          ((corpus.selected terms)[index]?).map fun document => .ok document.toHit, after, seen) ∧
      seen.state = served query batchSize observed.state
        (pagesRead (corpus.selected terms).length batchSize calls)) ∧
    ∃ after last,
      Pager.drain corpus.backend.recorded query (.start batchSize) observed =
        some (⟨(corpus.selected terms).length,
          ((corpus.selected terms).getLast?).map Document.toHit, none⟩, after, last) ∧
      last.state = served query batchSize observed.state
        ((corpus.selected terms).length / batchSize + 1) := by
  have serves := corpus.serves_recorded steady parsed batchSize observed.state
  obtain ⟨hits, last, transcript, told⟩ := serves.transcript positive (served_zero _).symm
  have documents (calls : Nat) : Pager.tellings (corpus.hits terms) calls =
      (List.range calls).map fun index =>
        ((corpus.selected terms)[index]?).map fun document => .ok document.toHit := by
    simp only [Pager.tellings, Corpus.hits, List.getElem?_map, Option.map_map, Function.comp_def]
  constructor
  · intro calls
    rw [← documents, ← length_hits, pagesRead]
    split
    case isTrue within => exact Pager.take_of_le positive transcript told within
    case isFalse beyond =>
      exact Pager.take_of_lt positive transcript told (Nat.not_le.mp beyond)
  · obtain ⟨after, finished, gives, ended, -⟩ := Pager.gives_to_end positive transcript told
    rw [← length_hits, ← List.getLast?_map, ← Corpus.hits]
    exact ⟨finished, last, Pager.drain_of_gives gives ended, told.ended⟩

theorem pager_reads_multiple :
    let corpus : Corpus := { documents := [⟨"a", .empty, []⟩, ⟨"b", .empty, []⟩,
      ⟨"c", .empty, []⟩, ⟨"d", .empty, []⟩] }
    let query : Query := ⟨"*", []⟩
    ∃ after seen,
      Pager.take corpus.backend.recorded query 6 (.start 2) ⟨({}, []), []⟩ =
        (corpus.documents.map (fun document => some (.ok document.toHit)) ++ [none, none],
          after, seen) ∧
      seen.state = (⟨3, 0⟩, [.fetch query 2 0, .fetch query 2 2, .fetch query 2 4]) := by
  intro corpus query
  have steady : corpus.failAfterPages = none := rfl
  have parsed : Query.terms query.text.toList = .ok [] := by decide
  obtain ⟨after, seen, told, state⟩ :=
    (pager_reads steady parsed Nat.two_pos ⟨({}, []), []⟩).1 6
  have pages : pagesRead (corpus.selected []).length 2 6 = 3 := by decide
  rw [pages] at state
  exact ⟨after, seen, told, state⟩

end Corpus

end VisibleFacets
