import Mathlib.Data.List.Forall2
import VisibleFacets.Proofs.Facet.Account
import VisibleFacets.Proofs.Facet.Precedence
import VisibleFacets.Proofs.Facet.Truncation
import VisibleFacets.Proofs.Search.Exhaustion

/-!
# Estimates from stale snapshots

A snapshot may claim more hits than its corpus has, or fewer. An estimate takes the table as it is,
draws from as many of the hits as are claimed, and scales by the size of the sample it asked for, if
there is room for it: `statisticalFacets_of_stale`.
-/

namespace VisibleFacets

variable {σ τ : Type}

/-! ## Scaled tables -/

/-- Some of the entries in their order, none with a higher count. -/
def ListsWithin (entries others : List Entry) : Prop :=
  List.SublistForall₂ (fun entry raw => entry.label = raw.label ∧ entry.count ≤ raw.count) entries
    others

theorem rescale_listsWithin (sampleSize accessible : Nat) (entries : List Entry) :
    ListsWithin (rescale sampleSize accessible entries) entries := by
  apply List.sublistForall₂_iff.mpr
  rcases Nat.lt_or_ge accessible sampleSize with below | full
  · have shares := (rescale_shares below entries).flip
    exact ⟨_, shares.imp fun _ _ shares => ⟨shares.label, shares.no_more⟩, List.filter_sublist⟩
  · rw [rescale_of_le full]
    exact ⟨entries, List.forall₂_same.mpr fun _ _ => ⟨rfl, Nat.le_refl _⟩, .refl entries⟩

theorem ListsWithin.of_take {entries others : List Entry} {limit : Nat}
    (within : ListsWithin entries (others.take limit)) : ListsWithin entries others := by
  obtain ⟨kept, lower, some⟩ := List.sublistForall₂_iff.mp within
  exact List.sublistForall₂_iff.mpr ⟨kept, lower, some.trans (List.take_sublist limit others)⟩

/-- The same facets, and under each of them such a list. -/
def TableWithin (table others : FacetTable) : Prop :=
  table.keys = others.keys ∧ ∀ facet listed, table.get? facet = some listed →
    ∃ entries, others.get? facet = some entries ∧ ListsWithin listed entries

theorem Snapshot.table_mapValues (snapshot : Snapshot) (limit : Nat)
    (f : List Entry → List Entry) :
    (snapshot.table limit).mapValues f =
      snapshot.facets.mapValues fun entries => f (entries.take limit) := by
  apply Dict.ext_get?
  intro facet
  rw [Dict.get?_mapValues, table, Dict.get?_mapValues, Dict.get?_mapValues, Option.map_map]
  rfl

theorem Snapshot.rescaled_within (snapshot : Snapshot) (limit sampleSize accessible : Nat) :
    TableWithin (snapshot.facets.mapValues fun entries =>
      rescale sampleSize accessible (entries.take limit)) snapshot.facets := by
  constructor
  · simp [Dict.keys, Dict.mapValues, Function.comp_def]
  · intro facet listed held
    rw [Dict.get?_mapValues, Option.map_eq_some_iff] at held
    obtain ⟨entries, known, rfl⟩ := held
    exact ⟨entries, known, (rescale_listsWithin _ _ _).of_take⟩

section Served

variable [Memory] {backend : Backend σ} {visibility : Visibility τ} {query : Query}
  {plan : SamplePlan} {bench middle : Bench σ τ} {all visible : List Hit} {checks : τ}
  {served : Nat → σ} {snapshot : Option Snapshot} {table : FacetTable} {limit total : Nat}

omit [Memory] in
theorem Backend.Serves.excerpt {batchSize : Nat}
    (serves : backend.Serves query batchSize all served) (positive : 0 < batchSize)
    {observed : Observed σ} (start : observed.state = served 0) (count : Nat) :
    ∃ last, Excerpt backend query batchSize count 0 observed (all.take count) none last ∧
      last.state = served (Corpus.pagesRead all.length batchSize count) := by
  obtain ⟨hits, last, transcript, told⟩ := serves.transcript positive start
  have length : hits.length = all.length := by rw [← told.order, List.length_map]
  rw [← told.order, Corpus.pagesRead, List.length_map, length]
  split
  case isTrue within =>
    exact ⟨_, transcript.excerpt positive (length ▸ within), told.cost count within⟩
  case isFalse beyond =>
    have beyond : hits.length < count := length ▸ Nat.not_le.mp beyond
    rw [List.take_of_length_le (by rw [List.length_map]; exact Nat.le_of_lt beyond)]
    exact ⟨last, transcript.excerpt_beyond positive beyond, told.ended⟩

/-- Whatever table and total were obtained, if the total is larger than the sample. -/
theorem Backend.Serves.run_statisticalFacets_drawn
    (serves : backend.Serves query plan.batchSize all served) (valid : plan.validate = .ok ())
    (fewer : plan.sampleSize < total) (room : plan.sampleSize ≤ Memory.room)
    (asked : (candidates backend query snapshot plan.batchSize limit).run bench =
      some (.ok (table, total), middle))
    (start : middle.observed.state = served 0) (silent : middle.observed.Concludes [])
    (sifts : visibility.Sifts middle.checks (drawn plan.sampleSize plan.seed (all.take total))
      visible checks) :
    let scaled := table.mapValues (rescale plan.sampleSize visible.length)
    ∃ after, (statisticalFacets backend visibility query plan snapshot limit).run bench =
        some (.ok scaled, after) ∧
      after.observed.state = served (Corpus.pagesRead all.length plan.batchSize total) ∧
      after.observed.Concludes (Estimation.signals ⟨.sampled, total, plan.sampleSize,
        min plan.sampleSize all.length, visible.length, scaled.size⟩) ∧
      after.checks = checks := by
  intro scaled
  obtain ⟨sizePositive, positive⟩ := plan.validate_eq_ok_iff.mp valid
  have told : (middle.report [.event (.sampling plan.sampleSize total)]).observed.state =
      served 0 := start
  obtain ⟨last, excerpt, reached⟩ := serves.excerpt positive told total
  have checked := run_checkSample_drawn positive sizePositive fewer room excerpt sifts
  have size : (drawn plan.sampleSize plan.seed (all.take total)).length =
      min plan.sampleSize all.length := by
    rw [length_drawn_eq_min, List.length_take]
    omega
  have before : last.Concludes [] :=
    checkSample_keeps (backend.concludes_keeps []) visibility query plan total _ _ checked silent
  rw [size] at checked
  refine ⟨_, run_statisticalFacets_sampled valid (Nat.le_of_lt fewer) asked checked, reached, ?_,
    rfl⟩
  rw [Observed.Concludes] at before ⊢
  show (last.signals ++ _).filter Signal.concludes = _
  rw [List.filter_append, before, Estimation.filter_signals, List.nil_append]

end Served

section Corpus

variable {visibility : Visibility τ} {query : Query} {terms : List Term} {plan : SamplePlan}
  {snapshot : Snapshot} {limit : Nat}

theorem shortSample_mem_iff {observed : Observed σ} {estimation : Estimation}
    (concludes : observed.Concludes estimation.signals) (sampled : estimation.strategy = .sampled) :
    (∃ taken asked claimed, .event (.shortSample taken asked claimed) ∈ observed.signals) ↔
      estimation.sampled < min estimation.sampleSize estimation.totalHits := by
  have told (taken asked claimed : Nat) :
      .event (.shortSample taken asked claimed) ∈ observed.signals ↔
        .event (.shortSample taken asked claimed) ∈ estimation.signals := by
    rw [← concludes, List.mem_filter]
    exact (and_iff_left rfl).symm
  simp only [told]
  constructor
  · rintro ⟨taken, asked, claimed, reported⟩
    exact (Estimation.mem_signals_shortSample reported).2
  · intro short
    refine ⟨estimation.sampled, estimation.sampleSize, estimation.totalHits, ?_⟩
    simp [Estimation.signals_eq, sampled, Nat.lt_min.mp short]

/-- Only as many of the matching documents are sampled as the snapshot claims, and all if it claims
more than there are. What the snapshot holds is cut to the limit and scaled by the visible ones
among them, in relation to the sample that was asked for even if there are fewer. No aggregation is
made, and a warning is given exactly if documents are missing from the sample. Where there is no
room for the sample there is no table, nothing is asked of the corpus and nothing is checked. -/
theorem statisticalFacets_of_stale [Memory] {corpus : Corpus}
    (steady : corpus.failAfterPages = none) (parsed : Query.terms query.text.toList = .ok terms)
    (infallible : visibility.Infallible) (valid : plan.validate = .ok ())
    (covered : limit ≤ snapshot.numFacets) (fewer : plan.sampleSize < snapshot.totalDocuments)
    (state : Usage × List Call) (checks : τ) :
    let matched := (corpus.selected terms).length
    let population := (corpus.selected terms).take snapshot.totalDocuments
    let estimated := (statisticalFacets corpus.backend.recorded visibility.recorded query plan
      (some snapshot) limit).run ⟨⟨state, []⟩, checks, []⟩
    (plan.sampleSize ≤ Memory.room → ∃ sampled visible last table after,
      (sample seededDice Source.ofList population.length plan.sampleSize (.ofSeed plan.seed)
        (population.map fun document => Except.ok (ε := Error) document.toHit)).1 = .ok sampled ∧
      sampled.length = min plan.sampleSize matched ∧
      visibility.Sifts checks sampled visible last ∧
      table = snapshot.facets.mapValues (fun entries =>
        rescale plan.sampleSize visible.length (entries.take limit)) ∧
      estimated = some (.ok table, after) ∧
      after.checks = (last, sampled) ∧
      after.observed.state = Corpus.served query plan.batchSize state
        (if snapshot.totalDocuments ≤ matched then snapshot.totalDocuments ⌈/⌉ plan.batchSize
          else matched / plan.batchSize + 1) ∧
      ((∃ taken asked claimed,
        .event (.shortSample taken asked claimed) ∈ after.observed.signals) ↔
          matched < plan.sampleSize) ∧
      TableWithin table snapshot.facets) ∧
    (Memory.room < plan.sampleSize → ∃ after, estimated = some (.error .noRoom, after) ∧
      after.observed.state = state ∧ after.checks = (checks, [])) := by
  intro matched population estimated
  obtain ⟨sizePositive, positive⟩ := plan.validate_eq_ok_iff.mp valid
  let start : Bench (Usage × List Call) (τ × List Hit) := ⟨⟨state, []⟩, checks, []⟩
  have asked : (candidates corpus.backend.recorded query (some snapshot) plan.batchSize limit).run
      start = some (.ok (snapshot.table limit, snapshot.totalDocuments), start) := by
    rw [candidates_of_covered covered, Counting.run_pure]
  refine ⟨fun room => ?_, fun noRoom =>
    ⟨_, run_statisticalFacets_noRoom valid fewer noRoom asked _, rfl, rfl⟩⟩
  have sampling : (corpus.hits terms).take snapshot.totalDocuments =
      population.map Document.toHit := by rw [Corpus.hits, List.map_take]
  obtain ⟨visible, last, sifts⟩ := infallible.sifts
    (drawn plan.sampleSize plan.seed (population.map Document.toHit)) checks
  have recorded := sifts.recorded []
  rw [← sampling] at recorded
  obtain ⟨after, estimated, served, concludes, checked⟩ :=
    (corpus.serves_recorded steady parsed plan.batchSize state).run_statisticalFacets_drawn valid
      fewer room asked (Corpus.served_zero state).symm rfl recorded
  rw [Corpus.length_hits] at served concludes
  rw [snapshot.table_mapValues limit] at estimated
  refine ⟨_, visible, last, _, after, ?drawing, ?size, sifts, rfl, estimated, ?checked, served,
    ?short, snapshot.rescaled_within limit _ _⟩
  case drawing =>
    have fits : (population.map Document.toHit).length ≤ Memory.room := by
      rw [← sampling]
      exact Nat.le_trans (List.length_take_le' _ _) corpus.hits_fit
    rw [← sample_ofList sizePositive plan.seed fits, List.length_map, List.map_map]
    rfl
  case size =>
    rw [length_drawn_eq_min, List.length_map, List.length_take]
    omega
  case checked => rw [checked, sampling, List.nil_append]
  case short =>
    rw [shortSample_mem_iff concludes rfl]
    show min plan.sampleSize matched < min plan.sampleSize snapshot.totalDocuments ↔ _
    omega

end Corpus

/-- Of three documents the first snapshot claims seven, and the second two. -/
theorem statisticalFacets_of_stale_three :
    let corpus : Corpus := { documents := [⟨"a", .ofList [("kind", .string "x")], ["all"]⟩,
      ⟨"b", .ofList [("kind", .string "y")], ["root"]⟩, ⟨"c", .empty, ["all"]⟩] }
    let query : Query := ⟨"*", ["kind"]⟩
    let visibility := Visibility.ofPredicate fun hit => "all" ∈ hit.readers
    let snapshot (claimed : Nat) : Snapshot := ⟨.ofList [("size", [⟨"z", 9⟩])], claimed, 5⟩
    let estimate (claimed : Nat) (plan : SamplePlan) :=
      (statisticalFacets corpus.backend.recorded visibility.recorded query plan
        (some (snapshot claimed)) 5).run ⟨⟨({}, []), []⟩, 0, []⟩
    (∃ table after, estimate 7 ⟨4, 7, 2⟩ = some (.ok table, after) ∧
      table = .ofList [("size", [⟨"z", 4⟩])] ∧ after.checks.2.length = 3 ∧
      after.observed.state = (⟨2, 0⟩, [.fetch query 2 0, .fetch query 2 2]) ∧
      ∃ taken asked claimed,
        .event (.shortSample taken asked claimed) ∈ after.observed.signals) ∧
    ∃ table after, estimate 2 ⟨1, 7, 2⟩ = some (.ok table, after) ∧ after.checks.2.length = 1 ∧
      after.observed.state = (⟨1, 0⟩, [.fetch query 2 0]) ∧
      ¬ ∃ taken asked claimed,
        .event (.shortSample taken asked claimed) ∈ after.observed.signals := by
  intro corpus query visibility snapshot estimate
  have steady : corpus.failAfterPages = none := rfl
  have parsed : Query.terms query.text.toList = .ok [] := by decide
  have infallible : visibility.Infallible := fun hit _ => ⟨decide ("all" ∈ hit.readers), rfl⟩
  have three : (corpus.selected []).length = 3 := by decide
  have covered (claimed : Nat) : 5 ≤ (snapshot claimed).numFacets := Nat.le_refl 5
  constructor
  · have stale := statisticalFacets_of_stale steady parsed infallible
      (rfl : (SamplePlan.mk 4 7 2).validate = _) (covered 7) (by decide) ({}, []) 0
    obtain ⟨sampled, visible, last, table, after, drawing, size, sifts, scaled, estimated, checked,
      state, short, -⟩ := stale.1 (by decide)
    rw [three] at size state short
    have two : visible.length = 2 := by
      cases drawing
      cases sifts with
      | hidden first => cases first
      | shown first rest =>
        cases first
        cases rest with
        | shown second => cases second
        | hidden second rest =>
          cases second
          cases rest with
          | hidden third => cases third
          | shown third rest =>
            cases rest
            rfl
    rw [two] at scaled
    refine ⟨table, after, estimated, scaled, ?_, state, short.mpr (by decide)⟩
    rw [checked, size]
    rfl
  · have stale := statisticalFacets_of_stale steady parsed infallible
      (rfl : (SamplePlan.mk 1 7 2).validate = _) (covered 2) (by decide) ({}, []) 0
    obtain ⟨sampled, visible, last, table, after, -, size, -, -, estimated, checked, state, short,
      -⟩ := stale.1 (by decide)
    have page : (snapshot 2).totalDocuments ⌈/⌉ (SamplePlan.mk 1 7 2).batchSize = 1 :=
      ceilDiv_eq_one Nat.two_pos (Nat.le_refl 2)
    rw [three] at size state short
    rw [if_pos (by decide), page] at state
    refine ⟨table, after, estimated, ?_, state, fun told => absurd (short.mp told) (by decide)⟩
    rw [checked, size]
    rfl

/-- The snapshot claims more documents than there is room for, and one is there. -/
theorem statisticalFacets_of_stale_noRoom :
    let corpus : Corpus := { documents := [⟨"a", .ofList [("kind", .string "x")], ["all"]⟩] }
    let visibility := Visibility.ofPredicate fun hit => "all" ∈ hit.readers
    let snapshot : Snapshot := ⟨.ofList [("kind", [⟨"x", 9⟩])], 2 ^ 61, 5⟩
    let estimated := (statisticalFacets corpus.backend visibility ⟨"*", ["kind"]⟩
      ⟨2 ^ 60, 7, 2⟩ (some snapshot) 5).run ⟨⟨{}, []⟩, 0⟩
    (∃ after, estimated = some (.error .noRoom, after) ∧ after.observed.state = {}) ∧
    ¬ ∃ table after, estimated = some (.ok table, after) := by
  intro corpus visibility snapshot estimated
  have valid : (SamplePlan.mk (2 ^ 60) 7 2).validate = .ok () := by decide
  have asked : (candidates corpus.backend ⟨"*", ["kind"]⟩ (some snapshot) 2 5).run
      (⟨⟨{}, []⟩, 0⟩ : Bench Usage Nat) = some (.ok (_, 2 ^ 61), _) := rfl
  have halted := run_statisticalFacets_noRoom valid (by decide) (by decide) asked visibility
  refine ⟨⟨_, halted, rfl⟩, ?_⟩
  rintro ⟨table, after, counted⟩
  cases halted.symm.trans counted

end VisibleFacets
