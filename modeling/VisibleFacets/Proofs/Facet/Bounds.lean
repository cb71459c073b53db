import VisibleFacets.Proofs.Facet.Reuse
import VisibleFacets.Proofs.Search.Exhaustion

/-!
# What a sample costs

A sample that is drawn from more hits than it asks for is never larger than that, whatever the
backend answers. One that asks for as many hits as are claimed is not drawn, and as large as what is
paged: `statisticalFacets_bounded`. A snapshot that claims too few hits then has all of them checked
(`statisticalFacets_stale`).
-/

namespace VisibleFacets

variable {σ τ : Type}

/-! ## What a step that succeeds has done -/

section Steps

variable {backend : Backend σ} {visibility : Visibility τ} {query : Query} {batchSize : Nat}
  {plan : SamplePlan} {bench after : Bench σ τ} {inspection : Inspection} {hits : List Hit}

theorem readHits_ok
    (read : (readHits backend visibility query batchSize).run bench =
      some (.ok inspection, after)) :
    ∃ hits visible,
      Pager.ReadsAll backend query batchSize bench.observed hits after.observed ∧
      visibility.Sifts bench.checks hits visible after.checks ∧
      inspection = ⟨hits.length, visible.reverse⟩ := by
  obtain ⟨_ | _, final, checks, finished, last, drained, same⟩ := readHits_eq_some read
  case error => cases same
  case ok =>
    cases same
    obtain ⟨hits, reached, ⟨pager, seen⟩, gives, accepts, stops⟩ := Source.drain_stops drained
    cases stops with
    | ended told =>
      obtain ⟨visible, sifts, rfl⟩ := Visibility.Sifts.of_accepts accepts
      refine ⟨hits, visible, ⟨pager, seen, finished, gives, told⟩, sifts, ?_⟩
      simp

theorem inspectHits_ok
    (read : (inspectHits visibility hits).run bench = some (.ok inspection, after)) :
    ∃ visible, visibility.Sifts bench.checks hits visible after.checks ∧
      inspection = ⟨hits.length, visible.reverse⟩ := by
  rcases visibility.sifts_or_refuses hits bench.checks with ⟨visible, last, sifts⟩ |
    ⟨before, hit, rest, _, _, error, _, rfl, sifts, failed⟩
  · have checked := run_inspectHits bench.observed sifts
    rw [read] at checked
    cases checked
    exact ⟨visible, sifts, rfl⟩
  · have refused : (inspectHits visibility (before ++ hit :: rest)).run bench =
        some (.error error, _) := run_inspectHits_refused bench.observed sifts failed
    rw [read] at refused
    cases refused

theorem drawHits_ok [Memory] {population size seed : Nat}
    (read : (drawHits backend query batchSize population size seed).run bench =
      some (.ok hits, after)) : hits.length ≤ size ∧ after.checks = bench.checks := by
  rcases drawn : sample seededDice (Pager.source backend query) population size
    (Generator.ofSeed seed) (.start batchSize, bench.observed) with ⟨_ | hits, dice, pager, last⟩
  case error => cases (run_drawHits_of drawn).symm.trans read
  case ok =>
    cases (run_drawHits_of drawn).symm.trans read
    exact ⟨length_le_of_sample drawn, rfl⟩

theorem candidates_ok {snapshot : Option Snapshot} {limit : Nat} {counted : FacetTable × Nat}
    (asked : (candidates backend query snapshot batchSize limit).run bench =
      some (.ok counted, after)) : after.checks = bench.checks := by
  rw [candidates] at asked
  split at asked
  case h_1 =>
    cases asked
    rfl
  case h_2 =>
    obtain ⟨_, told, emitted, asked⟩ := Counting.run_bind_eq_ok asked
    cases emitted
    obtain ⟨table, tabled, aggregated, asked⟩ := Counting.run_bind_eq_ok asked
    obtain ⟨-, rfl⟩ := Prod.mk.inj (Option.some.inj aggregated)
    obtain ⟨page, paged, fetched, asked⟩ := Counting.run_bind_eq_ok asked
    obtain ⟨-, rfl⟩ := Prod.mk.inj (Option.some.inj fetched)
    cases asked
    rfl

/-- The hits of a sample are drawn, or they are all the hits that are paged. Either way they are
checked, and nothing else. -/
theorem checkSample_sifts [Memory] {total sampled accessible : Nat}
    (checked : (checkSample backend visibility query plan total).run bench =
      some (.ok (sampled, accessible), after)) :
    ∃ hits visible, visibility.Sifts bench.checks hits visible after.checks ∧
      sampled = hits.length ∧ accessible = visible.length ∧
      (plan.sampleSize < total → ∃ asking last : Bench σ τ,
        (drawHits backend query plan.batchSize total plan.sampleSize plan.seed).run asking =
          some (.ok hits, last)) ∧
      (total ≤ plan.sampleSize → ∃ asking last,
        Pager.ReadsAll backend query plan.batchSize asking hits last) := by
  rw [checkSample] at checked
  split at checked
  case isTrue fewer =>
    obtain ⟨_, told, emitted, checked⟩ := Counting.run_bind_eq_ok checked
    cases emitted
    obtain ⟨_, next, inspected, checked⟩ := Counting.run_bind_eq_ok checked
    rw [inspectSample] at inspected
    obtain ⟨hits, middle, drawn, inspected⟩ := Counting.run_bind_eq_ok inspected
    obtain ⟨inspection, last, read, inspected⟩ := Counting.run_bind_eq_ok inspected
    cases inspected
    cases checked
    obtain ⟨visible, sifts, rfl⟩ := inspectHits_ok read
    rw [(drawHits_ok drawn).2] at sifts
    exact ⟨hits, visible, sifts, rfl, List.length_reverse, fun _ => ⟨_, _, drawn⟩,
      fun many => absurd fewer (by omega)⟩
  case isFalse many =>
    obtain ⟨_, told, emitted, checked⟩ := Counting.run_bind_eq_ok checked
    cases emitted
    obtain ⟨inspection, last, read, checked⟩ := Counting.run_bind_eq_ok checked
    cases checked
    obtain ⟨hits, visible, reads, sifts, rfl⟩ := readHits_ok read
    exact ⟨hits, visible, sifts, rfl, List.length_reverse, fun fewer => absurd fewer many,
      fun _ => ⟨_, _, reads⟩⟩

/-- A sample drawn from more hits than it asks for has at most so many, and otherwise it has all the
hits that are paged. -/
theorem checkSample_ok [Memory] {total sampled accessible : Nat}
    {bench after : Bench σ (τ × List Hit)}
    (checked : (checkSample backend visibility.recorded query plan total).run bench =
      some (.ok (sampled, accessible), after)) :
    ∃ inspected, after.checks.2 = bench.checks.2 ++ inspected ∧ inspected.length = sampled ∧
      accessible ≤ sampled ∧
      (plan.sampleSize < total → sampled ≤ plan.sampleSize) ∧
      (total ≤ plan.sampleSize → ∃ asking last,
        Pager.ReadsAll backend query plan.batchSize asking inspected last) := by
  obtain ⟨hits, visible, sifts, rfl, rfl, draws, reads⟩ := checkSample_sifts checked
  refine ⟨hits, sifts.asked, rfl, sifts.length_le, fun fewer => ?_, reads⟩
  obtain ⟨asking, last, drawn⟩ := draws fewer
  exact (drawHits_ok drawn).1

/-! ## Whole counts -/

/-- The record of a count that took a sample tells how many hits were checked. These are no fewer
than the visible ones, and no more than the sample asks for if it asks for fewer hits than are
claimed. If it asks for just as many, they are all the hits that are paged. -/
theorem statisticalFacets_bounded [Memory] {snapshot : Option Snapshot} {limit : Nat} {state : σ}
    {checks : τ} {table : FacetTable} {after : Bench σ (τ × List Hit)}
    (counted : (statisticalFacets backend visibility.recorded query plan snapshot limit).run
      ⟨⟨state, []⟩, checks, []⟩ = some (.ok table, after)) :
    ∃ estimation : Estimation, estimation.signals <:+ after.observed.signals ∧
      estimation.sampleSize = plan.sampleSize ∧
      (estimation.strategy = .sampled →
        after.checks.2.length = estimation.sampled ∧
        estimation.accessible ≤ estimation.sampled ∧
        plan.sampleSize ≤ estimation.totalHits ∧
        (plan.sampleSize < estimation.totalHits → estimation.sampled ≤ plan.sampleSize) ∧
        (plan.sampleSize = estimation.totalHits → ∃ asking last,
          Pager.ReadsAll backend query plan.batchSize asking after.checks.2 last)) := by
  rw [statisticalFacets] at counted
  obtain ⟨_, start, validated, counted⟩ := Counting.run_bind_eq_ok counted
  obtain ⟨-, rfl⟩ := Prod.mk.inj (Option.some.inj validated)
  obtain ⟨⟨candidate, total⟩, middle, asked, counted⟩ := Counting.run_bind_eq_ok counted
  have unchecked := candidates_ok asked
  rcases Nat.lt_or_ge total plan.sampleSize with few | enough
  · have strategy : Strategy.choose total plan.sampleSize = .exact := by
      rw [Strategy.choose, if_pos few]
    simp only [strategy] at counted
    obtain ⟨_, told, emitted, counted⟩ := Counting.run_bind_eq_ok counted
    obtain ⟨facets, last, secure, counted⟩ := Counting.run_bind_eq_ok counted
    obtain ⟨_, reported, emitted, counted⟩ := Counting.run_bind_eq_ok counted
    cases emitted
    cases counted
    refine ⟨⟨.exact, total, plan.sampleSize, 0, 0, table.size⟩, ⟨_, rfl⟩, rfl, ?_⟩
    intro sampled
    cases sampled
  · have strategy : Strategy.choose total plan.sampleSize = .sampled := by
      rw [Strategy.choose, if_neg (Nat.not_lt.mpr enough)]
    simp only [strategy] at counted
    obtain ⟨⟨sampled, accessible⟩, last, checked, counted⟩ := Counting.run_bind_eq_ok counted
    obtain ⟨_, reported, emitted, counted⟩ := Counting.run_bind_eq_ok counted
    cases emitted
    cases counted
    obtain ⟨inspected, asked, length, visible, bounded, whole⟩ := checkSample_ok checked
    rw [unchecked, List.nil_append] at asked
    rw [← asked] at length whole
    exact ⟨⟨.sampled, total, plan.sampleSize, sampled, accessible, _⟩, ⟨_, rfl⟩, rfl,
      fun _ => ⟨length, visible, enough, bounded, fun all => whole (Nat.le_of_eq all.symm)⟩⟩

theorem statisticalFacets_bounded_three :
    let corpus : Corpus := { documents := [⟨"a", .ofList [("kind", .string "x")], ["all"]⟩,
      ⟨"b", .ofList [("kind", .string "y")], ["root"]⟩, ⟨"c", .empty, ["all"]⟩] }
    let visibility := Visibility.ofPredicate fun hit => "all" ∈ hit.readers
    ∃ table after estimation,
      (statisticalFacets corpus.backend visibility.recorded ⟨"*", ["kind"]⟩ ⟨2, 7, 2⟩ none 5).run
        ⟨⟨{}, []⟩, 0, []⟩ = some (.ok table, after) ∧
      Estimation.signals estimation <:+ after.observed.signals ∧ estimation.sampleSize = 2 ∧
      (estimation.strategy = .sampled → after.checks.2.length = estimation.sampled ∧
        (2 < estimation.totalHits → estimation.sampled ≤ 2)) := by
  intro corpus visibility
  have steady : corpus.failAfterPages = none := rfl
  have parsed : Query.terms (Query.mk "*" ["kind"]).text.toList = .ok [] := by decide
  have infallible : visibility.Infallible := fun hit _ => ⟨decide ("all" ∈ hit.readers), rfl⟩
  have enough : 2 ≤ (corpus.hits []).length := by decide
  have tabled : corpus.table ⟨"*", ["kind"]⟩ 5 = .ok _ := rfl
  obtain ⟨visible, last, sifts⟩ := infallible.sifts (drawn 2 7 (corpus.hits [])) 0
  obtain ⟨after, counted, -⟩ := run_statisticalFacets steady parsed ⟨2, 7, 2⟩ Nat.two_pos
    Nat.two_pos enough tabled ⟨{}, []⟩ (sifts.recorded [])
  obtain ⟨estimation, reported, size, sampled⟩ := statisticalFacets_bounded counted
  refine ⟨_, after, estimation, counted, reported, size, fun strategy => ?_⟩
  obtain ⟨checked, -, -, within, -⟩ := sampled strategy
  exact ⟨checked, within⟩

end Steps

/-! ## Snapshots that claim too little -/

section Corpus

variable {visibility : Visibility τ} {query : Query} {terms : List Term}
  {plan : SamplePlan} {snapshot : Snapshot} {limit : Nat}

theorem statisticalFacets_stale [Memory] {corpus : Corpus} (steady : corpus.failAfterPages = none)
    (parsed : Query.terms query.text.toList = .ok terms) (infallible : visibility.Infallible)
    (valid : plan.validate = .ok ()) (covered : limit ≤ snapshot.numFacets)
    (claimed : snapshot.totalDocuments = plan.sampleSize) (usage : Usage) (checks : τ) :
    ∃ table after estimation,
      (statisticalFacets corpus.backend visibility.recorded query plan (some snapshot) limit).run
        ⟨⟨usage, []⟩, checks, []⟩ = some (.ok table, after) ∧
      Estimation.signals estimation <:+ after.observed.signals ∧
      estimation.strategy = .sampled ∧ estimation.totalHits = plan.sampleSize ∧
      estimation.sampled = (corpus.hits terms).length ∧ after.checks.2 = corpus.hits terms := by
  obtain ⟨sizePositive, positive⟩ := plan.validate_eq_ok_iff.mp valid
  let start : Bench Usage (τ × List Hit) := ⟨⟨usage, []⟩, checks, []⟩
  have known : (candidates corpus.backend query (some snapshot) plan.batchSize limit).run start =
      some (.ok (snapshot.table limit, plan.sampleSize), start) := by
    rw [candidates_of_covered covered, claimed, Counting.run_pure]
  obtain ⟨hits, last, transcript, told⟩ := corpus.transcript steady parsed positive
    (start.report [.event (.checkingAll plan.sampleSize plan.sampleSize)]).observed
  obtain ⟨visible, next, sifts⟩ := infallible.sifts (hits.map Prod.fst) checks
  have checked := run_checkSample_whole positive (Nat.le_refl plan.sampleSize) transcript
    (sifts.recorded [])
  have estimated := run_statisticalFacets_sampled valid (Nat.le_refl plan.sampleSize) known checked
  refine ⟨_, _, _, estimated, ⟨_, rfl⟩, rfl, rfl, ?_, told.order⟩
  rw [← told.order, List.length_map]

/-- Two documents are asked for and two are claimed, but three are there, and all three are
checked. -/
theorem statisticalFacets_exceeds :
    let corpus : Corpus := { documents := [⟨"a", .ofList [("kind", .string "x")], ["alice"]⟩,
      ⟨"b", .ofList [("kind", .string "y")], ["alice"]⟩,
      ⟨"c", .ofList [("kind", .string "x")], ["alice"]⟩] }
    let query : Query := ⟨"*", ["kind"]⟩
    let plan : SamplePlan := ⟨2, 7, 10⟩
    let snapshot : Snapshot := ⟨.ofList [("kind", [⟨"x", 1⟩, ⟨"y", 1⟩])], 2, 2⟩
    ∃ table after estimation,
      (statisticalFacets corpus.backend (.recorded (.ofPredicate fun _ => true)) query plan
        (some snapshot) 2).run ⟨⟨{}, []⟩, 0, []⟩ = some (.ok table, after) ∧
      Estimation.signals estimation <:+ after.observed.signals ∧
      estimation.strategy = .sampled ∧ ¬ after.checks.2.length ≤ plan.sampleSize ∧
      ¬ estimation.sampled ≤ plan.sampleSize := by
  intro corpus query plan snapshot
  have steady : corpus.failAfterPages = none := rfl
  have parsed : Query.terms query.text.toList = .ok [] := by decide
  have infallible : (Visibility.ofPredicate fun _ => true).Infallible := fun _ _ => ⟨true, rfl⟩
  have valid : plan.validate = .ok () := rfl
  obtain ⟨table, after, estimation, counted, reported, strategy, -, sampled, checked⟩ :=
    statisticalFacets_stale steady parsed infallible valid (Nat.le_refl 2 : 2 ≤ snapshot.numFacets)
      (rfl : snapshot.totalDocuments = plan.sampleSize) {} 0
  have three : (corpus.hits []).length = 3 := by decide
  have more : ¬ 3 ≤ plan.sampleSize := by decide
  refine ⟨table, after, estimation, counted, reported, strategy, ?_, ?_⟩
  · rwa [checked, three]
  · rwa [sampled, three]

end Corpus

end VisibleFacets
