import VisibleFacets.Proofs.Facet.Answer
import VisibleFacets.Proofs.Facet.Ending

/-!
# Counts where page fetches fail

A corpus that lets only so many fetches succeed answers as one without that limit, until it fails.
So a count of it ends with the table of the other corpus or with that failure, and which of them it
is depends on the number of its fetches alone: `facetsIn_limited`.
-/

namespace VisibleFacets

variable {τ : Type}

namespace Corpus

variable [Memory] {corpus : Corpus} {allowed : Nat}

def steady (corpus : Corpus) : Corpus := { corpus with failAfterPages := none }

/-- Two runs begin after so many fetches, and the second fails with the first fetch that it is not
allowed. -/
def limiting (start allowed : Nat) : Coupling Error Usage Usage where
  related first second :=
    first = second ∧ start ≤ first.pageFetches ∧ first.pageFetches ≤ max start allowed
  beyond first := max start allowed < first.pageFetches
  stopped error second :=
    (∃ detail, error = .backend detail) ∧ second.pageFetches = max start allowed + 1

section Limited

variable (limited : corpus.failAfterPages = some allowed) {query : Query} {batchSize offset : Nat}
  {usage : Usage}
include limited

theorem page_of_lt (room : usage.pageFetches < allowed) :
    corpus.page query batchSize offset usage = corpus.steady.page query batchSize offset usage := by
  have going : corpus.exhausted usage = false := by
    rw [exhausted, limited]
    exact decide_eq_false (Nat.not_le.mpr room)
  rw [page, going]
  rfl

theorem page_of_le (spent : allowed ≤ usage.pageFetches) :
    corpus.page query batchSize offset usage = .error (.pageFailure offset) := by
  have closed : corpus.exhausted usage = true := by
    rw [exhausted, limited]
    exact decide_eq_true spent
  rw [page, if_pos closed]

theorem steady_couples (start : Nat) :
    Backend.Couples (limiting start allowed) corpus.steady.backend corpus.backend where
  fetchPage query batchSize offset := {
    keepsUp := by
      rintro usage _ ⟨rfl, started, within⟩
      simp only [backend]
      rcases Nat.lt_or_ge usage.pageFetches allowed with room | spent
      · rw [page_of_lt limited room]
        exact .along ⟨rfl, Nat.le_succ_of_le started, Nat.le_trans room (Nat.le_max_right _ _)⟩
      · have last : usage.pageFetches = max start allowed :=
          Nat.le_antisymm within (Nat.max_le.mpr ⟨started, spent⟩)
        rw [page_of_le limited spent]
        exact .short (Nat.lt_succ_of_le last.ge) ⟨⟨_, rfl⟩, congrArg (· + 1) last⟩
    beyond := Nat.lt_succ_of_lt }
  aggregate query limit := {
    keepsUp := by
      rintro usage _ ⟨rfl, within⟩
      exact .along ⟨rfl, within⟩
    beyond := id }

end Limited

/-- A step that succeeds under a limit, or without one, has the same value where there is none. -/
theorem steady_ok {α : Type} (step : Corpus → Counting Usage τ α)
    (couples : ∀ coupling, Backend.Couples coupling corpus.steady.backend corpus.backend →
      Counting.Couples coupling (step corpus.steady) (step corpus))
    (ends : Counting.Ends (step corpus.steady)) {bench after : Bench Usage τ} {value : α}
    (succeeded : (step corpus).run bench = some (.ok value, after)) :
    ∃ last, (step corpus.steady).run bench = some (.ok value, last) := by
  cases limited : corpus.failAfterPages with
  | none =>
    have same : corpus.steady = corpus := by
      rw [steady, ← limited]
    rw [same]
    exact ⟨after, succeeded⟩
  | some allowed =>
    obtain ⟨⟨answer, last⟩, ended⟩ := ends bench
    have start : ((limiting bench.observed.state.pageFetches allowed).bench τ).related bench bench :=
      ⟨rfl, rfl, Nat.le_refl _, Nat.le_max_left _ _⟩
    obtain ⟨reached, reran, kept⟩ :=
      (couples _ (corpus.steady_couples limited _)).keepsUp start ended
    obtain rfl := Option.some.inj (succeeded.symm.trans reran)
    cases kept
    exact ⟨last, ended⟩

end Corpus

/-- How many pages a count fetches where so many documents match. Sampling stops with the last of
them, and all other reading with a page that is short. -/
def Mode.fetches (mode : Mode) (plan : SamplePlan) (matched : Nat) : Nat :=
  match mode with
  | .secure => matched / plan.batchSize + 1
  | .statistical =>
    if matched ≤ plan.sampleSize then matched / plan.batchSize + 2
    else matched ⌈/⌉ plan.batchSize + 1
  | .insecure => 0

section Modes

variable [Memory] {corpus : Corpus} {visibility : Visibility τ} {query : Query} {terms : List Term}
  {plan : SamplePlan}

theorem Mode.run_count (steady : corpus.failAfterPages = none)
    (parsed : Query.terms query.text.toList = .ok terms) (valid : plan.validate = .ok ())
    (infallible : visibility.Infallible) (mode : Mode) (limit : Nat) (checks : τ) :
    ∃ table, ∀ observed, ∃ after,
      (mode.count corpus.backend visibility query plan none limit).run ⟨observed, checks⟩ =
        some (.ok table, after) ∧
      after.observed.state.pageFetches = observed.state.pageFetches +
        mode.fetches plan (corpus.hits terms).length := by
  obtain ⟨sizePositive, positive⟩ := plan.validate_eq_ok_iff.mp valid
  have tabled : corpus.table query limit = _ := corpus.table_eq parsed limit
  cases mode with
  | secure =>
    obtain ⟨visible, last, sifts⟩ := infallible.sifts (corpus.hits terms) checks
    refine ⟨countFacets (labelsOf visible) query.facets limit, fun observed => ?_⟩
    obtain ⟨signals, counted⟩ :=
      Corpus.run_secureFacets steady parsed positive ⟨observed, checks⟩ sifts limit
    exact ⟨_, counted, rfl⟩
  | statistical =>
    obtain ⟨visible, last, sifts⟩ :=
      infallible.sifts (drawn plan.sampleSize plan.seed (corpus.hits terms)) checks
    refine ⟨plan.estimate query.facets limit (corpus.hits terms).length
      (countFacets (labelsOf (corpus.hits terms)) query.facets limit) visible, fun observed => ?_⟩
    obtain ⟨signals, asked⟩ := run_candidates steady parsed tabled plan.batchSize ⟨observed, checks⟩
    obtain ⟨signals, estimated⟩ := run_statisticalFacets_asked steady parsed valid asked sifts
    refine ⟨_, estimated, ?_⟩
    simp only [Usage.fetched, SamplePlan.fetches, Mode.fetches]
    split <;> split <;> omega
  | insecure => exact ⟨_, fun observed => ⟨_, run_insecureFacets tabled ⟨observed, checks⟩, rfl⟩⟩

/-- Where only so many page fetches succeed, a count ends with the table that it has without that
limit if the limit leaves as many fetches as it needs, and it makes just these. Otherwise it has no
table: it ends with a failure of the backend at the first fetch that the limit does not allow. -/
theorem facetsIn_limited {allowed : Nat} (limited : corpus.failAfterPages = some allowed)
    (parsed : Query.terms query.text.toList = .ok terms) (valid : plan.validate = .ok ())
    (infallible : visibility.Infallible) (mode : Mode) (limit : Nat) :
    ∃ count unlimited,
      facetsIn mode corpus.backend visibility query plan none = .ok count ∧
      facetsIn mode corpus.steady.backend visibility query plan none = .ok unlimited ∧
      ∀ checks, ∃ table,
        (∀ observed, ∃ after,
          (unlimited limit).run ⟨observed, checks⟩ = some (.ok table, after)) ∧
        ∀ observed,
          let served := observed.state.pageFetches
          let needed := mode.fetches plan (corpus.selected terms).length
          (needed ≤ allowed - served → ∃ after,
            (count limit).run ⟨observed, checks⟩ = some (.ok table, after) ∧
            after.observed.state.pageFetches = served + needed) ∧
          (allowed - served < needed → ∃ detail after,
            (count limit).run ⟨observed, checks⟩ = some (.error (.backend detail), after) ∧
            after.observed.state.pageFetches = max served allowed + 1) := by
  have steady : corpus.steady.failAfterPages = none := rfl
  refine ⟨_, _, by rw [facetsIn_eq, valid]; rfl, by rw [facetsIn_eq, valid]; rfl, fun checks => ?_⟩
  obtain ⟨table, runs⟩ := Mode.run_count steady parsed valid infallible mode limit checks
  refine ⟨table, fun observed => ?_, fun observed => ?_⟩
  · obtain ⟨after, counted, -⟩ := runs observed
    exact ⟨after, counted⟩
  · -- What the count costs is known without the limit, and with it the count keeps up or stops.
    obtain ⟨after, counted, cost⟩ := runs observed
    have matched : (corpus.steady.hits terms).length = (corpus.selected terms).length :=
      Corpus.length_hits
    rw [matched] at cost
    have couples := mode.count_couples
      (corpus.steady_couples limited observed.state.pageFetches) visibility query plan none limit
    have start : ((Corpus.limiting observed.state.pageFetches allowed).bench τ).related
        ⟨observed, checks⟩ ⟨observed, checks⟩ :=
      ⟨rfl, rfl, Nat.le_refl _, Nat.le_max_left _ _⟩
    obtain ⟨last, ended, kept⟩ := couples.keepsUp start counted
    cases kept with
    | along related =>
      obtain ⟨-, same, -, within⟩ := related
      rw [cost] at within
      refine ⟨fun _ => ⟨_, ended, by rw [← same, cost]⟩, fun scarce => ?_⟩
      exact absurd within (by omega)
    | short beyond stopped =>
      obtain ⟨⟨detail, rfl⟩, fetches⟩ := stopped
      have beyond : max observed.state.pageFetches allowed < after.observed.state.pageFetches :=
        beyond
      rw [cost] at beyond
      refine ⟨fun enough => ?_, fun _ => ⟨detail, _, ended, fetches⟩⟩
      exact absurd beyond (by omega)

end Modes

/-- A corpus of four documents lets three fetches of two documents succeed. -/
theorem facetsIn_limited_four :
    let corpus : Corpus := { documents := [⟨"a", .empty, []⟩, ⟨"b", .empty, []⟩,
      ⟨"c", .empty, []⟩, ⟨"d", .empty, []⟩], failAfterPages := some 3 }
    let query : Query := ⟨"*", ["kind"]⟩
    let visibility := Visibility.firstChecks 3
    let plan : SamplePlan := ⟨4, 7, 2⟩
    (∃ count table after,
      facetsIn .secure corpus.backend visibility query plan none = .ok count ∧
      (count 10).run ⟨⟨{}, []⟩, 0⟩ = some (.ok table, after) ∧
      after.observed.state.pageFetches = 3) ∧
    ∃ count detail after,
      facetsIn .statistical corpus.backend visibility query plan none = .ok count ∧
      (count 10).run ⟨⟨{}, []⟩, 0⟩ = some (.error (.backend detail), after) ∧
      after.observed.state.pageFetches = 4 := by
  intro corpus query visibility plan
  have limited : corpus.failAfterPages = some 3 := rfl
  have parsed : Query.terms query.text.toList = .ok [] := by decide
  have valid : plan.validate = .ok () := rfl
  have infallible : visibility.Infallible := fun _ checks => ⟨decide (checks < 3), rfl⟩
  have four : (corpus.selected []).length = 4 := by decide
  have three : Mode.secure.fetches plan 4 = 3 := by decide
  constructor
  · obtain ⟨count, _, counts, -, ends⟩ :=
      facetsIn_limited limited parsed valid infallible .secure 10
    obtain ⟨table, -, limits⟩ := ends 0
    obtain ⟨after, counted, fetches⟩ := (limits ⟨{}, []⟩).1 (by rw [four, three]; decide)
    rw [four, three] at fetches
    exact ⟨count, table, after, counts, counted, fetches⟩
  · obtain ⟨count, _, counts, -, ends⟩ :=
      facetsIn_limited limited parsed valid infallible .statistical 10
    obtain ⟨_, -, limits⟩ := ends 0
    obtain ⟨detail, after, failed, fetches⟩ := (limits ⟨{}, []⟩).2 (by rw [four]; decide)
    exact ⟨count, detail, after, counts, failed, fetches⟩

end VisibleFacets
