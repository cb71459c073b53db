import VisibleFacets.Proofs.Facet.Bounds
import VisibleFacets.Proofs.Facet.Limit
import VisibleFacets.Proofs.Facet.Survey

/-!
# What an estimate reports of itself

The pages counted are those that the backend gave, without the one that only tells the number of
hits. A count that fails reports nothing else, and one that ends reports once, at the end, and what
it reports is so: `statisticalFacets_accounts`.
-/

namespace VisibleFacets

variable {σ τ : Type}

/-! ## Signals -/

def Signal.concludes : Signal → Bool
  | .event entry => entry.concludes
  | .measurement .pageFetched => false
  | .measurement _ => true

theorem Page.filter_signals (page : Page) (batchSize offset : Nat) :
    (page.signals batchSize offset).filter Signal.concludes = [] := by
  rw [signals]
  split <;> rfl

theorem Estimation.filter_signals (estimation : Estimation) :
    estimation.signals.filter Signal.concludes = estimation.signals := by
  rw [signals, sampledDocuments]
  split <;> split <;> rfl

theorem Estimation.signals_eq (estimation : Estimation) :
    estimation.signals =
      [.measurement (.estimation estimation.strategy)] ++
      (if estimation.strategy = .sampled then
        [.measurement (.sampledDocuments estimation.sampled)] else []) ++
      [.event (.estimated estimation)] ++
      (if estimation.strategy = .sampled ∧
          estimation.sampled < min estimation.sampleSize estimation.totalHits then
        [.event (.shortSample estimation.sampled estimation.sampleSize estimation.totalHits)]
       else []) := by
  rw [signals, isShort, sampledDocuments]
  cases estimation.strategy <;> simp

theorem Estimation.mem_signals_shortSample {estimation : Estimation}
    {sampled sampleSize totalHits : Nat}
    (told : .event (.shortSample sampled sampleSize totalHits) ∈ estimation.signals) :
    estimation.strategy = .sampled ∧
      estimation.sampled < min estimation.sampleSize estimation.totalHits := by
  rw [signals_eq] at told
  by_contra full
  rw [if_neg full, List.append_nil] at told
  split at told <;> simp at told

/-- These signals, and no others, have told of estimations that are over. -/
def Observed.Concludes (told : List Signal) (observed : Observed σ) : Prop :=
  observed.signals.filter Signal.concludes = told

theorem Backend.concludes_keeps (backend : Backend σ) (told : List Signal) :
    backend.Keeps (Observed.Concludes told) where
  served {observed query batchSize offset page next} held _ := by
    rw [Observed.Concludes, Observed.receive, List.filter_append, page.filter_signals,
      List.append_nil, held]
  failed held _ := held
  logged {observed event} held passing := by
    have silent : Signal.concludes (.event event) = false := passing
    rw [Observed.Concludes, Observed.log, List.filter_append, held]
    simp [silent]

theorem candidates_concludes (backend : Backend σ) (query : Query) (snapshot : Option Snapshot)
    (batchSize limit : Nat) (told : List Signal) :
    Counting.Keeps (Observed.Concludes told)
      (candidates backend query snapshot batchSize limit : Counting σ τ (FacetTable × Nat)) := by
  have asks {α : Type} (call : σ → Except Error α × σ) :
      Counting.Keeps (Observed.Concludes told) (Counting.ask call : Counting σ τ α) := by
    intro bench result asked held
    cases asked
    exact held
  rw [candidates]
  split
  · exact .pure _
  · refine .bind (.emit (backend.concludes_keeps told) rfl) fun _ => ?_
    exact .bind (asks _) fun _ => .bind (asks _) fun _ => .pure _

theorem survey_concludes [Memory] (backend : Backend σ) (visibility : Visibility τ) (query : Query)
    (plan : SamplePlan) (snapshot : Option Snapshot) (limit : Nat) (told : List Signal) :
    Counting.Keeps (Observed.Concludes told)
      (survey backend visibility query plan snapshot limit) := by
  refine .bind (.ofExcept _) fun _ => ?_
  refine .bind (candidates_concludes backend query snapshot _ limit told) fun counted => ?_
  exact appraise_keeps (backend.concludes_keeps told) counted

theorem statisticalFacets_concludes [Memory] {backend : Backend σ} {visibility : Visibility τ}
    {query : Query} {plan : SamplePlan} {snapshot : Option Snapshot} {limit : Nat} {state : σ}
    {checks : τ} {after : Bench σ τ} {outcome : Except Error FacetTable}
    (ended : (statisticalFacets backend visibility query plan snapshot limit).run
      ⟨⟨state, []⟩, checks⟩ = some (outcome, after)) :
    (∃ error, outcome = .error error ∧
      (survey backend visibility query plan snapshot limit).run ⟨⟨state, []⟩, checks⟩ =
        some (.error error, after) ∧
      after.observed.signals.filter Signal.concludes = []) ∨
    ∃ table estimation last, outcome = .ok table ∧
      (survey backend visibility query plan snapshot limit).run ⟨⟨state, []⟩, checks⟩ =
        some (.ok (table, estimation), last) ∧
      after = last.report estimation.signals ∧
      after.observed.signals.filter Signal.concludes = estimation.signals := by
  have silent := survey_concludes backend visibility query plan snapshot limit []
  rcases statisticalFacets_ended ended with ⟨error, rfl, failed⟩ |
    ⟨table, estimation, last, rfl, surveyed, rfl⟩
  · exact .inl ⟨error, rfl, failed, silent _ _ failed rfl⟩
  · have before : last.observed.signals.filter Signal.concludes = [] := silent _ _ surveyed rfl
    refine .inr ⟨table, estimation, last, rfl, surveyed, rfl, ?_⟩
    rw [Bench.report, List.filter_append, before, estimation.filter_signals, List.nil_append]

/-! ## Pages -/

/-- The same backend, which also writes down its answers to page fetches. -/
def Backend.answering (backend : Backend σ) : Backend (σ × List (Except Error Page)) where
  fetchPage query batchSize offset state :=
    let (answer, next) := backend.fetchPage query batchSize offset state.1
    (answer, next, state.2 ++ [answer])
  aggregate query limit state :=
    let (answer, next) := backend.aggregate query limit state.1
    (answer, next, state.2)

/-- The page that is fetched for its number of hits, unless a snapshot tells that number. -/
def candidatePage? (snapshot : Option Snapshot) (limit : Nat) (answers : List (Except Error Page)) :
    Option Page :=
  match Snapshot.covering? snapshot limit, answers with
  | none, .ok page :: _ => some page
  | _, _ => none

theorem Measurements.pagesFetched_append (first second : List Signal) :
    (ofSignals (first ++ second)).pagesFetched =
      (ofSignals first).pagesFetched + (ofSignals second).pagesFetched := by
  simp [ofSignals]

theorem Page.pagesFetched_signals (page : Page) (batchSize offset : Nat) :
    (Measurements.ofSignals (page.signals batchSize offset)).pagesFetched = 1 := by
  rw [signals]
  split <;> rfl

theorem Estimation.pagesFetched_signals (estimation : Estimation) :
    (Measurements.ofSignals estimation.signals).pagesFetched = 0 := by
  rw [signals, sampledDocuments]
  split <;> split <;> rfl

/-- After these answers, the pages that were given are those that were counted. -/
def Observed.CountsPages (answers : List (Except Error Page))
    (observed : Observed (σ × List (Except Error Page))) : Prop :=
  ∃ later, observed.state.2 = answers ++ later ∧
    (Measurements.ofSignals observed.signals).pagesFetched = later.countP Except.isOk

theorem Backend.answering_keeps (backend : Backend σ) (answers : List (Except Error Page)) :
    backend.answering.Keeps (Observed.CountsPages answers) where
  served {observed query batchSize offset page next} held fetched := by
    obtain ⟨later, answered, counted⟩ := held
    obtain ⟨told, rfl⟩ := Prod.mk.inj fetched
    refine ⟨later ++ [.ok page], ?_, ?_⟩
    · show observed.state.2 ++ [_] = _
      rw [told, answered, List.append_assoc]
    · rw [Observed.receive, Measurements.pagesFetched_append, page.pagesFetched_signals, counted,
        List.countP_append]
      rfl
  failed {observed query batchSize offset error next} held fetched := by
    obtain ⟨later, answered, counted⟩ := held
    obtain ⟨told, rfl⟩ := Prod.mk.inj fetched
    refine ⟨later ++ [.error error], ?_, ?_⟩
    · show observed.state.2 ++ [_] = _
      rw [told, answered, List.append_assoc]
    · rw [counted, List.countP_append]
      rfl
  logged {observed event} held _ := by
    obtain ⟨later, answered, counted⟩ := held
    refine ⟨later, answered, ?_⟩
    rw [Observed.log, Measurements.pagesFetched_append, counted]
    rfl

section Answering

variable {backend : Backend σ} {visibility : Visibility τ} {query : Query} {plan : SamplePlan}
  {snapshot : Option Snapshot} {batchSize limit : Nat} {state : σ} {checks : τ}
  {after : Bench (σ × List (Except Error Page)) τ}

/-- No page is counted that is fetched for the number of hits, and nothing fetched later changes
which page that was. -/
theorem candidates_answering {outcome : Except Error (FacetTable × Nat)}
    (asked : (candidates backend.answering query snapshot batchSize limit).run
      ⟨⟨(state, []), []⟩, checks⟩ = some (outcome, after)) :
    let answers := after.observed.state.2
    let candidatePage := candidatePage? snapshot limit answers
    (Measurements.ofSignals after.observed.signals).pagesFetched = 0 ∧
      answers.countP Except.isOk = (if candidatePage.isSome then 1 else 0) ∧
      ∀ counted, outcome = .ok counted →
        ((Snapshot.covering? snapshot limit).map Snapshot.totalDocuments).or
          (candidatePage.map Page.totalHits) = some counted.2 ∧
        ∀ later, candidatePage? snapshot limit (answers ++ later) = candidatePage := by
  cases covered : Snapshot.covering? snapshot limit with
  | some held =>
    rw [candidates, covered] at asked
    cases asked
    refine ⟨rfl, by simp [candidatePage?, covered], ?_⟩
    rintro _ ⟨⟩
    simp [candidatePage?, covered]
  | none =>
    rcases candidates_uncovered covered asked with ⟨error, next, given, rfl, rfl⟩ |
      ⟨table, next, answer, last, given, fetched, rfl, rfl⟩
    · obtain ⟨-, rfl⟩ := Prod.mk.inj given
      exact ⟨rfl, by simp [candidatePage?, covered], by rintro _ ⟨⟩⟩
    · obtain ⟨-, rfl⟩ := Prod.mk.inj given
      obtain ⟨told, rfl⟩ := Prod.mk.inj fetched
      simp only [told, List.nil_append]
      refine ⟨rfl, ?_, ?_⟩
      · cases answer <;> simp [candidatePage?, covered, Except.isOk, Except.toBool]
      · cases answer with
        | error error => rintro _ ⟨⟩
        | ok page =>
          rintro _ ⟨⟩
          simp [candidatePage?, covered]

theorem survey_answering [Memory] {outcome : Except Error (FacetTable × Estimation)}
    (surveyed : (survey backend.answering visibility query plan snapshot limit).run
      ⟨⟨(state, []), []⟩, checks⟩ = some (outcome, after)) :
    let answers := after.observed.state.2
    let candidatePage := candidatePage? snapshot limit answers
    (Measurements.ofSignals after.observed.signals).pagesFetched +
        (if candidatePage.isSome then 1 else 0) = answers.countP Except.isOk ∧
      ∀ table estimation, outcome = .ok (table, estimation) →
        ((Snapshot.covering? snapshot limit).map Snapshot.totalDocuments).or
          (candidatePage.map Page.totalHits) = some estimation.totalHits := by
  rw [survey] at surveyed
  rcases Counting.run_bind_eq_some surveyed with ⟨error, rfl, failed⟩ |
    ⟨_, start, validated, surveyed⟩
  · obtain ⟨-, rfl⟩ := Prod.mk.inj (Option.some.inj failed)
    refine ⟨?_, by rintro _ _ ⟨⟩⟩
    cases covered : Snapshot.covering? snapshot limit <;> simp [candidatePage?, covered] <;> rfl
  obtain ⟨valid, rfl⟩ := Prod.mk.inj (Option.some.inj validated)
  rcases Counting.run_bind_eq_some surveyed with ⟨error, rfl, failed⟩ |
    ⟨counted, middle, asked, surveyed⟩
  · obtain ⟨silent, pages, -⟩ := candidates_answering failed
    exact ⟨by rw [silent, pages, Nat.zero_add], by rintro _ _ ⟨⟩⟩
  · -- From here on every page that is given is counted.
    obtain ⟨silent, pages, known⟩ := candidates_answering asked
    obtain ⟨claimed, settled⟩ := known counted rfl
    have start : middle.observed.CountsPages middle.observed.state.2 :=
      ⟨[], (List.append_nil _).symm, silent⟩
    obtain ⟨later, answered, counts⟩ :=
      appraise_keeps (backend.answering_keeps _) counted _ _ surveyed start
    dsimp only
    rw [answered, settled, List.countP_append, pages, counts, Nat.add_comm]
    refine ⟨rfl, ?_⟩
    rintro table estimation rfl
    rw [claimed, (appraise_ok surveyed).1]

end Answering

/-! ## Samples of a corpus -/

namespace Corpus

variable [Memory] {corpus : Corpus} {visibility : Visibility τ} {query : Query} {terms : List Term}

theorem candidates_total {batchSize limit : Nat} {bench after : Bench Usage τ}
    {counted : FacetTable × Nat}
    (asked : (candidates corpus.backend query none batchSize limit).run bench =
      some (.ok counted, after)) :
    ∃ terms, Query.terms query.text.toList = .ok terms ∧
      counted.2 = (corpus.hits terms).length := by
  rcases candidates_uncovered rfl asked with ⟨_, _, _, same, -⟩ |
    ⟨table, next, answer, last, -, fetched, same, -⟩
  · cases same
  · obtain ⟨told, -⟩ := Prod.mk.inj fetched
    cases parsed : Query.terms query.text.toList with
    | error error =>
      simp only [page, matching, parsed] at told
      split at told <;> subst told <;> cases same
    | ok terms =>
      refine ⟨terms, rfl, ?_⟩
      rw [length_hits]
      simp only [page, matching, parsed] at told
      split at told <;> subst told <;> cases same
      rfl

/-- No sample of a corpus is short, even if page fetches may fail, as long as they do not. -/
theorem checkSample_full {plan : SamplePlan} (valid : plan.validate = .ok ())
    (parsed : Query.terms query.text.toList = .ok terms)
    (enough : plan.sampleSize ≤ (corpus.hits terms).length) {sampled accessible : Nat}
    {bench after : Bench Usage τ}
    (checked : (checkSample corpus.backend visibility query plan (corpus.hits terms).length).run
      bench = some (.ok (sampled, accessible), after)) : sampled = plan.sampleSize := by
  obtain ⟨sizePositive, positive⟩ := plan.validate_eq_ok_iff.mp valid
  have steady : corpus.steady.failAfterPages = none := rfl
  -- Where no fetch can fail the sample has the same size, and its hits are known.
  obtain ⟨last, checked⟩ := corpus.steady_ok
    (fun held => checkSample held.backend visibility query plan (corpus.hits terms).length)
    (fun _ couples => checkSample_couples couples visibility query plan _)
    (checkSample_ends steady visibility query positive _) checked
  obtain ⟨hits, visible, -, rfl, -, draws, reads⟩ := checkSample_sifts checked
  rcases Nat.lt_or_eq_of_le enough with fewer | all
  · obtain ⟨asking, _, drew⟩ := draws fewer
    obtain ⟨paged, _, transcript, told⟩ :=
      corpus.steady.transcript steady parsed positive asking.observed
    have order : paged.map Prod.fst = corpus.hits terms := told.order
    have length : (corpus.hits terms).length = paged.length := by rw [← order, List.length_map]
    have room : plan.sampleSize ≤ Memory.room := Nat.le_trans enough corpus.hits_fit
    have draws := run_drawHits (τ := τ) positive sizePositive room
      (transcript.excerpt_whole positive) plan.seed
    rw [← length, order, drew] at draws
    cases draws
    exact length_drawn plan.seed enough
  · obtain ⟨asking, _, pager, seen, finished, gives, ended⟩ := reads (Nat.le_of_eq all.symm)
    obtain ⟨paged, _, transcript, told⟩ := corpus.steady.transcript steady parsed positive asking
    obtain ⟨reader, _, regives, reended, -⟩ := Pager.gives_to_end positive transcript told
    rw [gives.unique regives ended reended, all]
    rfl

end Corpus

/-! ## Reports -/

/-- The record of an estimate with this table, and with these hits checked for it: the table is the
secure count, or one that is rescaled by the visible share of the sample. -/
structure Estimation.Describes (estimation : Estimation) (backend : Backend σ)
    (visibility : Visibility τ) (query : Query) (plan : SamplePlan) (limit : Nat) (checks : τ)
    (asked : List Hit) (table : FacetTable) : Prop where
  strategy : estimation.strategy = .choose estimation.totalHits plan.sampleSize
  sampleSize : estimation.sampleSize = plan.sampleSize
  facetCount : estimation.facetCount = table.size
  exact (unsampled : estimation.strategy = .exact) :
    estimation.sampled = 0 ∧ estimation.accessible = 0 ∧ ∃ asking last,
      (secureFacets backend visibility.recorded query plan.batchSize limit).run asking =
        some (.ok table, last) ∧ last.checks.2 = asked
  sample (sampled : estimation.strategy = .sampled) : ∃ visible last counted,
    visibility.Sifts checks asked visible last ∧ estimation.sampled = asked.length ∧
      estimation.accessible = visible.length ∧
      table = Dict.mapValues (rescale plan.sampleSize estimation.accessible) counted

theorem survey_describes [Memory] {backend : Backend σ} {visibility : Visibility τ} {query : Query}
    {plan : SamplePlan} {snapshot : Option Snapshot} {limit : Nat} {observed : Observed σ}
    {checks : τ} {table : FacetTable} {estimation : Estimation} {after : Bench σ (τ × List Hit)}
    (surveyed : (survey backend visibility.recorded query plan snapshot limit).run
      ⟨observed, checks, []⟩ = some (.ok (table, estimation), after)) :
    estimation.Describes backend visibility query plan limit checks after.checks.2 table := by
  obtain ⟨-, counted, middle, asked, appraised⟩ := survey_ok surveyed
  have unchecked := candidates_ok asked
  obtain ⟨total, size, facets, ⟨few, strategy, none, invisible, asking, secure⟩ |
    ⟨enough, strategy, rescaled, checked⟩⟩ := appraise_ok appraised
  · refine ⟨?_, size, facets, fun _ => ⟨none, invisible, asking, after, secure, rfl⟩, ?_⟩
    · rw [strategy, Strategy.choose, total, if_pos few]
    · intro sampled
      cases strategy.symm.trans sampled
  · refine ⟨?_, size, facets, ?_, fun _ => ?_⟩
    · rw [strategy, Strategy.choose, total, if_neg (Nat.not_lt.mpr enough)]
    · intro exact
      cases strategy.symm.trans exact
    · obtain ⟨hits, visible, sifts, sampled, accessible, -⟩ := checkSample_sifts checked
      have asked := sifts.asked
      rw [unchecked, List.nil_append] at asked
      rw [unchecked] at sifts
      rw [asked]
      exact ⟨visible, _, counted.1, sifts.of_recorded, sampled, accessible, rescaled⟩

theorem Corpus.statisticalFacets_not_short [Memory] {corpus : Corpus} {visibility : Visibility τ}
    {query : Query} {plan : SamplePlan} {limit : Nat} {usage : Usage} {checks : τ}
    {outcome : Except Error FacetTable} {after : Bench Usage τ}
    (ended : (statisticalFacets corpus.backend visibility query plan none limit).run
      ⟨⟨usage, []⟩, checks⟩ = some (outcome, after)) (sampled sampleSize totalHits : Nat) :
    .event (.shortSample sampled sampleSize totalHits) ∉ after.observed.signals := by
  intro told
  have concludes : Signal.concludes (.event (.shortSample sampled sampleSize totalHits)) := rfl
  have reported := List.mem_filter.mpr ⟨told, concludes⟩
  rcases statisticalFacets_concludes ended with ⟨error, rfl, -, silent⟩ |
    ⟨table, estimation, last, rfl, surveyed, -, concluded⟩
  · rw [silent] at reported
    cases reported
  · rw [concluded] at reported
    obtain ⟨strategy, short⟩ := Estimation.mem_signals_shortSample reported
    obtain ⟨valid, ⟨_, total⟩, middle, asked, appraised⟩ := survey_ok surveyed
    obtain ⟨terms, parsed, rfl⟩ := Corpus.candidates_total asked
    obtain ⟨known, size, -, ⟨-, exact, -⟩ | ⟨enough, -, -, checked⟩⟩ := appraise_ok appraised
    · cases strategy.symm.trans exact
    · rw [Corpus.checkSample_full valid parsed enough checked, size, known] at short
      omega

/-- Where fetched pages and checked hits are written down, an estimate has counted the pages that
were given, except the one that was fetched for its number of hits. If it fails it has told of
nothing else. If it succeeds it has told of one estimation, with a record that is true of it, of the
size of its sample if it took one, and of a short sample exactly if this has fewer hits than were
asked for and claimed. A corpus without a snapshot has no short samples. -/
theorem statisticalFacets_accounts [Memory] (visibility : Visibility τ) (query : Query)
    (plan : SamplePlan) (limit : Nat) (checks : τ) :
    (∀ (backend : Backend σ) (snapshot : Option Snapshot) (state : σ) outcome after,
      (statisticalFacets backend.answering visibility.recorded query plan snapshot limit).run
          ⟨⟨(state, []), []⟩, checks, []⟩ = some (outcome, after) →
      let answers := after.observed.state.2
      let signals := after.observed.signals
      let candidatePage := candidatePage? snapshot limit answers
      (Measurements.ofSignals signals).pagesFetched + (if candidatePage.isSome then 1 else 0) =
          answers.countP Except.isOk ∧
        (∀ error, outcome = .error error → signals.filter Signal.concludes = []) ∧
        ∀ table, outcome = .ok table → ∃ estimation : Estimation,
          estimation.Describes backend.answering visibility query plan limit checks
            after.checks.2 table ∧
          ((Snapshot.covering? snapshot limit).map Snapshot.totalDocuments).or
            (candidatePage.map Page.totalHits) = some estimation.totalHits ∧
          signals.filter Signal.concludes =
            [.measurement (.estimation estimation.strategy)] ++
            (if estimation.strategy = .sampled then
              [.measurement (.sampledDocuments estimation.sampled)] else []) ++
            [.event (.estimated estimation)] ++
            (if estimation.strategy = .sampled ∧
                estimation.sampled < min plan.sampleSize estimation.totalHits then
              [.event (.shortSample estimation.sampled plan.sampleSize estimation.totalHits)]
             else [])) ∧
    ∀ (corpus : Corpus) (usage : Usage) outcome after,
      (statisticalFacets corpus.backend visibility query plan none limit).run
          ⟨⟨usage, []⟩, checks⟩ = some (outcome, after) →
      ∀ sampled sampleSize totalHits,
        .event (.shortSample sampled sampleSize totalHits) ∉ after.observed.signals := by
  constructor
  · intro backend snapshot state outcome after ended
    rcases statisticalFacets_concludes ended with ⟨error, rfl, failed, silent⟩ |
      ⟨table, estimation, last, rfl, surveyed, rfl, concluded⟩
    · exact ⟨(survey_answering failed).1, fun _ _ => silent, by rintro _ ⟨⟩⟩
    · obtain ⟨pages, claimed⟩ := survey_answering surveyed
      have described := survey_describes surveyed
      refine ⟨?_, by rintro _ ⟨⟩, ?_⟩
      · rw [Bench.report, Measurements.pagesFetched_append, estimation.pagesFetched_signals]
        exact pages
      · rintro _ ⟨⟩
        refine ⟨estimation, described, claimed table estimation rfl, ?_⟩
        rw [concluded, estimation.signals_eq, described.sampleSize]
  · intro corpus usage outcome after ended
    exact Corpus.statisticalFacets_not_short ended

/-- Of five hits that are claimed one is there. All three hits of the corpus are. -/
theorem statisticalFacets_accounts_short :
    let document : Document := ⟨"a", .empty, ["all"]⟩
    let script : Script := ⟨[.ok ⟨[document.toHit], 5⟩], .ok .empty⟩
    let visibility := Visibility.ofPredicate fun hit => "all" ∈ hit.readers
    let snapshot : Snapshot := ⟨.ofList [("kind", [⟨"x", 4⟩])], 5, 9⟩
    let corpus : Corpus := { documents := [document, document, document] }
    (∃ table after estimation,
      (statisticalFacets script.backend.answering visibility.recorded ⟨"*", ["kind"]⟩ ⟨2, 7, 2⟩
        (some snapshot) 9).run ⟨⟨({}, []), []⟩, 0, []⟩ = some (.ok table, after) ∧
      (Measurements.ofSignals after.observed.signals).pagesFetched = 1 ∧
      after.observed.signals.filter Signal.concludes =
        [.measurement (.estimation .sampled), .measurement (.sampledDocuments 1),
          .event (.estimated estimation), .event (.shortSample 1 2 5)]) ∧
    ∃ outcome after,
      (statisticalFacets corpus.backend visibility ⟨"*", ["kind"]⟩ ⟨2, 7, 2⟩ none 9).run
        ⟨⟨{}, []⟩, 0⟩ = some (outcome, after) ∧
      .event (.shortSample 1 2 5) ∉ after.observed.signals := by
  intro document script visibility snapshot corpus
  have accounted {σ : Type} :=
    statisticalFacets_accounts (σ := σ) visibility ⟨"*", ["kind"]⟩ ⟨2, 7, 2⟩ 9 0
  obtain ⟨table, after, counted, answered, asked⟩ : ∃ table after,
      (statisticalFacets script.backend.answering visibility.recorded ⟨"*", ["kind"]⟩ ⟨2, 7, 2⟩
        (some snapshot) 9).run ⟨⟨({}, []), []⟩, 0, []⟩ = some (.ok table, after) ∧
      after.observed.state.2 = [.ok ⟨[document.toHit], 5⟩] ∧ after.checks.2 = [document.toHit] :=
    ⟨_, _, rfl, rfl, rfl⟩
  obtain ⟨pages, -, accounts⟩ := accounted.1 script.backend (some snapshot) {} _ _ counted
  obtain ⟨estimation, described, claimed, concluded⟩ := accounts table rfl
  rw [answered] at pages
  have five : estimation.totalHits = 5 := (Option.some.inj claimed).symm
  have strategy : estimation.strategy = .sampled := by rw [described.strategy, five]; rfl
  obtain ⟨visible, last, counts, -, one, -⟩ := described.sample strategy
  rw [asked] at one
  rw [strategy, one, five] at concluded
  have steady : corpus.failAfterPages = none := rfl
  obtain ⟨⟨outcome, last⟩, ended⟩ := statisticalFacets_ends steady visibility ⟨"*", ["kind"]⟩
    ⟨2, 7, 2⟩ none 9 ⟨⟨{}, []⟩, 0⟩
  exact ⟨⟨table, after, estimation, counted, pages, concluded⟩, outcome, last, ended,
    (accounted (σ := Usage)).2 corpus {} _ _ ended 1 2 5⟩

end VisibleFacets
