import VisibleFacets.Proofs.Facet.Estimate
import VisibleFacets.Search.Script

/-!
# Which failure ends an estimate

Fetches and checks may both fail. A sample smaller than the hits is drawn before any hit is checked,
so failed fetches come first, and where there is no room for it nothing comes before that. A sample
of all hits is not drawn, and the failure that ends the estimate is the first one on the way:
`statisticalFacets_precedence`.
-/

namespace VisibleFacets

variable {σ τ : Type}

/-- As many hits are read as were claimed, and the sample that is drawn from them is checked in the
order of its slots. In the end there are the sizes of the sample and of its visible part, or a
failure. -/
inductive ChecksDrawn (backend : Backend σ) (visibility : Visibility τ) (query : Query)
    (plan : SamplePlan) (total : Nat) (start : Bench σ τ) :
    Except Error (Nat × Nat) → Bench σ τ → Prop
  | unread {hits : List Hit} {error : Error} {last : Observed σ}
      (excerpt : Excerpt backend query plan.batchSize total 0 start.observed hits (some error)
        last) :
      ChecksDrawn backend visibility query plan total start (.error error) ⟨last, start.checks⟩
  | refused {hits before after visible : List Hit} {hit : Hit} {error : Error} {last : Observed σ}
      {checks next : τ}
      (excerpt : Excerpt backend query plan.batchSize total 0 start.observed hits none last)
      (sampled : drawn plan.sampleSize plan.seed hits = before ++ hit :: after)
      (sifts : visibility.Sifts start.checks before visible checks)
      (failed : visibility.check hit checks = (.error error, next)) :
      ChecksDrawn backend visibility query plan total start (.error error) ⟨last, next⟩
  | passed {hits visible : List Hit} {last : Observed σ} {checks : τ}
      (excerpt : Excerpt backend query plan.batchSize total 0 start.observed hits none last)
      (sifts : visibility.Sifts start.checks (drawn plan.sampleSize plan.seed hits) visible
        checks) :
      ChecksDrawn backend visibility query plan total start
        (.ok ((drawn plan.sampleSize plan.seed hits).length, visible.length)) ⟨last, checks⟩

/-- The hits are checked as they come, and no more is read than what it takes to have the hit that
is checked. -/
inductive ChecksAsRead (backend : Backend σ) (visibility : Visibility τ) (query : Query)
    (batchSize : Nat) (start : Bench σ τ) : Except Error (Nat × Nat) → Bench σ τ → Prop
  | unread {hits visible : List Hit} {error : Error} {last : Observed σ} {checks : τ}
      (excerpt : Excerpt backend query batchSize (hits.length + 1) 0 start.observed hits
        (some error) last)
      (sifts : visibility.Sifts start.checks hits visible checks) :
      ChecksAsRead backend visibility query batchSize start (.error error) ⟨last, checks⟩
  | refused {before visible : List Hit} {hit : Hit} {error : Error} {last : Observed σ}
      {checks next : τ}
      (excerpt : Excerpt backend query batchSize (before.length + 1) 0 start.observed
        (before ++ [hit]) none last)
      (sifts : visibility.Sifts start.checks before visible checks)
      (failed : visibility.check hit checks = (.error error, next)) :
      ChecksAsRead backend visibility query batchSize start (.error error) ⟨last, next⟩
  | passed {hits visible : List Hit} {last : Observed σ} {checks : τ}
      (excerpt : Excerpt backend query batchSize (hits.length + 1) 0 start.observed hits none last)
      (sifts : visibility.Sifts start.checks hits visible checks) :
      ChecksAsRead backend visibility query batchSize start (.ok (hits.length, visible.length))
        ⟨last, checks⟩

section Steps

variable [Memory] {backend : Backend σ} {visibility : Visibility τ} {query : Query}
  {plan : SamplePlan} {bench middle : Bench σ τ} {total limit : Nat}

/-! ## Samples that are drawn -/

theorem checkSample_drawn (valid : plan.validate = .ok ()) (fewer : plan.sampleSize < total)
    (room : plan.sampleSize ≤ Memory.room) (visibility : Visibility τ) (bench : Bench σ τ) :
    ∃ outcome after, ChecksDrawn backend visibility query plan total
        (bench.report [.event (.sampling plan.sampleSize total)]) outcome after ∧
      (checkSample backend visibility query plan total).run bench = some (outcome, after) := by
  obtain ⟨sizePositive, positive⟩ := plan.validate_eq_ok_iff.mp valid
  obtain ⟨hits, failure, last, excerpt⟩ := Excerpt.exists_of_pos positive backend query total 0
    (bench.report [.event (.sampling plan.sampleSize total)]).observed
  cases failure with
  | some error =>
    have draws := run_drawHits positive sizePositive room excerpt plan.seed
    refine ⟨_, _, .unread excerpt, ?_⟩
    rw [checkSample, if_pos fewer, Counting.run_bind_ok (Counting.run_emit _ _)]
    apply Counting.run_bind_error
    exact Counting.run_bind_error draws _
  | none =>
    rcases visibility.sifts_or_refuses (drawn plan.sampleSize plan.seed hits) bench.checks with
      ⟨visible, checks, sifts⟩ | ⟨before, hit, after, visible, checks, error, next, sampled, sifts,
        failed⟩
    · exact ⟨_, _, .passed excerpt sifts,
        run_checkSample_drawn positive sizePositive fewer room excerpt sifts⟩
    · refine ⟨_, _, .refused excerpt sampled sifts failed, ?_⟩
      rw [run_checkSample_excerpt positive sizePositive fewer room excerpt, sampled]
      exact Counting.run_bind_error (run_inspectHits_refused last sifts failed) _

/-! ## Hits that are checked as they come -/

omit [Memory] in
theorem readHits_checks {batchSize : Nat} (positive : 0 < batchSize)
    {outcome : Except Error Inspection} {after : Bench σ τ}
    (ended : (readHits backend visibility query batchSize).run bench = some (outcome, after)) :
    ChecksAsRead backend visibility query batchSize bench
      (outcome.map fun inspection => (inspection.checked, inspection.visible.length)) after := by
  obtain ⟨told, inspection, checks, pager, last, drained, same⟩ := readHits_eq_some ended
  cases same
  obtain ⟨hits, ⟨reached, passed⟩, next, gives, accepts, stops⟩ := Source.drain_stops drained
  obtain ⟨visible, sifts, counted⟩ := Visibility.Sifts.of_accepts accepts
  cases stops with
  | ended told =>
    have reads := gives.reads (.ended told : Source.Reads _ 1 _ _ _ _)
    rw [List.append_nil] at reads
    have excerpt := (Pager.excerpt_iff_reads positive).mpr ⟨_, reads⟩
    rw [counted]
    simpa [Except.map] using ChecksAsRead.passed excerpt sifts
  | failed told =>
    have reads := gives.reads (.failed told : Source.Reads _ 1 _ _ _ _)
    rw [List.append_nil] at reads
    exact .unread ((Pager.excerpt_iff_reads positive).mpr ⟨_, reads⟩) sifts
  | @refused hit error _ _ told refused =>
    have reads := gives.reads (.more told .enough : Source.Reads _ 1 _ _ _ _)
    have excerpt := (Pager.excerpt_iff_reads positive).mpr ⟨_, reads⟩
    rcases checked : visibility.check hit passed with ⟨_ | _ | _, final⟩
    case error =>
      rw [inspect_refused checked] at refused
      cases refused
      exact .refused excerpt sifts checked
    case ok.false =>
      rw [inspect_hidden checked] at refused
      cases refused
    case ok.true =>
      rw [inspect_shown checked] at refused
      cases refused

omit [Memory] in
theorem readHits_endless {batchSize : Nat} (positive : 0 < batchSize)
    (endless : (readHits backend visibility query batchSize).run bench = none) (count : Nat) :
    ∃ hits last visible checks, hits.length = count ∧
      Excerpt backend query batchSize count 0 bench.observed hits none last ∧
      visibility.Sifts bench.checks hits visible checks := by
  have drained : (Pager.source backend query).drain (inspect visibility) ({}, bench.checks)
      (.start batchSize, bench.observed) = none := by
    rcases drained : (Pager.source backend query).drain (inspect visibility) ({}, bench.checks)
        (.start batchSize, bench.observed) with _ | ⟨_, _, _⟩
    · rfl
    · cases endless.symm.trans (run_readHits_of drained)
  obtain ⟨hits, ⟨inspection, checks⟩, ⟨pager, last⟩, rfl, gives, accepts⟩ :=
    Source.drain_endless drained count
  obtain ⟨visible, sifts, -⟩ := Visibility.Sifts.of_accepts accepts
  have reads := gives.reads .enough
  rw [List.append_nil] at reads
  exact ⟨hits, last, visible, checks, rfl, (Pager.excerpt_iff_reads positive).mpr ⟨_, reads⟩, sifts⟩

/-! ## The estimate -/

/-- Where fewer hits are sampled than were claimed, the pages that hold the claimed hits are read
before any check, and no others; then the sample is checked, up to the first check that fails. If
there is no room for the sample, no page is read and nothing is checked. Where the sample is all
that was claimed, every hit is checked before the next one is read, and the first failure is the
last thing that happens, unless hits and checks go on for ever. -/
theorem statisticalFacets_precedence {snapshot : Option Snapshot} {table : FacetTable}
    (valid : plan.validate = .ok ()) (enough : plan.sampleSize ≤ total)
    (asked : (candidates backend query snapshot plan.batchSize limit).run bench =
      some (.ok (table, total), middle)) (visibility : Visibility τ) :
    (plan.sampleSize < total → plan.sampleSize ≤ Memory.room → ∃ outcome after,
      ChecksDrawn backend visibility query plan total
        (middle.report [.event (.sampling plan.sampleSize total)]) outcome after ∧
      (statisticalFacets backend visibility query plan snapshot limit).run bench =
        some (plan.conclude total table (outcome, after))) ∧
    (plan.sampleSize < total → Memory.room < plan.sampleSize →
      (statisticalFacets backend visibility query plan snapshot limit).run bench =
        some (.error .noRoom, middle.report [.event (.sampling plan.sampleSize total)])) ∧
    (plan.sampleSize = total →
      let start := middle.report [.event (.checkingAll plan.sampleSize total)]
      (∃ outcome after,
        ChecksAsRead backend visibility query plan.batchSize start outcome after ∧
        (statisticalFacets backend visibility query plan snapshot limit).run bench =
          some (plan.conclude total table (outcome, after))) ∨
      (statisticalFacets backend visibility query plan snapshot limit).run bench = none ∧
        ∀ count, ∃ hits last visible checks, hits.length = count ∧
          Excerpt backend query plan.batchSize count 0 start.observed hits none last ∧
          visibility.Sifts start.checks hits visible checks) := by
  obtain ⟨-, positive⟩ := plan.validate_eq_ok_iff.mp valid
  refine ⟨?_, fun fewer noRoom =>
    run_statisticalFacets_noRoom valid fewer noRoom asked visibility, ?_⟩
  all_goals rw [run_statisticalFacets_checked valid enough asked]
  · intro fewer room
    obtain ⟨outcome, after, checks, ran⟩ := checkSample_drawn valid fewer room visibility middle
    rw [ran]
    exact ⟨outcome, after, checks, rfl⟩
  · intro all start
    rw [checkSample, if_neg (Nat.not_lt.mpr (Nat.le_of_eq all.symm)),
      Counting.run_bind_ok (Counting.run_emit _ _), Counting.run_bind]
    cases ended : (readHits backend visibility query plan.batchSize).run start with
    | none => exact .inr ⟨rfl, readHits_endless positive ended⟩
    | some read =>
      obtain ⟨outcome, after⟩ := read
      refine .inl ⟨_, after, readHits_checks positive ended, ?_⟩
      cases outcome with
      | error error => rfl
      | ok inspection => rfl

end Steps

/-- The second page cannot be fetched, and no check succeeds. Drawing two of four hits fails on the
page, and checking two of two hits on the first check. -/
theorem statisticalFacets_precedence_pair :
    let script : Script :=
      ⟨[.ok ⟨[{ id := "a" }, { id := "b" }], 4⟩, .error (.pageFailure 2)], .ok .empty⟩
    let visibility := Visibility.failingAfter 0 (.permission "revoked")
    let estimate (total : Nat) :=
      (statisticalFacets script.backend visibility ⟨"*", ["kind"]⟩ ⟨2, 7, 2⟩
        (some ⟨.empty, total, 5⟩) 5).run ⟨⟨{}, []⟩, 0⟩
    (∃ after, estimate 4 = some (.error (.pageFailure 2), after) ∧
      after.observed.state.fetches = [(2, 0), (2, 2)] ∧ after.checks = 0) ∧
    ∃ after, estimate 2 = some (.error (.permission "revoked"), after) ∧
      after.observed.state.fetches = [(2, 0)] ∧ after.checks = 1 := by
  intro script visibility estimate
  have valid : (SamplePlan.mk 2 7 2).validate = .ok () := rfl
  have asked (total : Nat) : (candidates script.backend ⟨"*", ["kind"]⟩ (some ⟨.empty, total, 5⟩)
      2 5).run (⟨⟨{}, []⟩, 0⟩ : Bench CallLog Nat) = some (.ok (_, total), _) := rfl
  constructor
  · obtain ⟨outcome, after, checks, ran⟩ :=
      (statisticalFacets_precedence valid (by decide) (asked 4) visibility).1 (by decide) (by decide)
    have paged (signals : List Signal) : ∃ hits last, Excerpt script.backend ⟨"*", ["kind"]⟩ 2 4 0
        ⟨{}, signals⟩ hits (some (.pageFailure 2)) last ∧ last.state.fetches = [(2, 0), (2, 2)] :=
      ⟨_, _, .full rfl (Nat.le_refl 2) (.failed rfl), rfl⟩
    obtain ⟨hits, last, known, fetches⟩ := paged _
    cases checks with
    | unread excerpt =>
      obtain ⟨-, same, rfl⟩ := known.unique (by decide) excerpt
      cases same
      exact ⟨_, ran, fetches, rfl⟩
    | refused excerpt =>
      obtain ⟨-, same, -⟩ := known.unique (by decide) excerpt
      cases same
    | passed excerpt =>
      obtain ⟨-, same, -⟩ := known.unique (by decide) excerpt
      cases same
  · have paged (signals : List Signal) : ∃ hits last, Excerpt script.backend ⟨"*", ["kind"]⟩ 2 1 0
        ⟨{}, signals⟩ hits none last ∧ hits ≠ [] ∧ last.state.fetches = [(2, 0)] :=
      ⟨_, _, .full rfl (Nat.le_refl 2) .enough, List.cons_ne_nil _ _, rfl⟩
    have fails (hits visible : List Hit) (last : Nat)
        (sifts : visibility.Sifts 0 hits visible last) : hits = [] ∧ last = 0 := by
      cases sifts with
      | nil => exact ⟨rfl, rfl⟩
      | shown checked => cases checked
      | hidden checked => cases checked
    rcases (statisticalFacets_precedence valid (by decide) (asked 2) visibility).2.2 rfl with
      ⟨outcome, after, checks, ran⟩ | ⟨-, endless⟩
    · obtain ⟨page, last, known, some, fetches⟩ := paged _
      cases checks with
      | unread excerpt sifts =>
        obtain ⟨rfl, rfl⟩ := fails _ _ _ sifts
        obtain ⟨none, -⟩ := known.unique (by decide) excerpt
        exact absurd none.symm some
      | refused excerpt sifts failed =>
        obtain ⟨rfl, rfl⟩ := fails _ _ _ sifts
        cases failed
        obtain ⟨-, -, rfl⟩ := known.unique (by decide) excerpt
        exact ⟨_, ran, fetches, rfl⟩
      | passed excerpt sifts =>
        obtain ⟨rfl, rfl⟩ := fails _ _ _ sifts
        obtain ⟨none, -⟩ := known.unique (by decide) excerpt
        exact absurd none.symm some
    · obtain ⟨hits, _, _, _, one, -, sifts⟩ := endless 1
      obtain ⟨rfl, -⟩ := fails _ _ _ sifts
      cases one

/-- The first page cannot be fetched, but it is not asked for. -/
theorem statisticalFacets_of_noRoom :
    let script : Script := ⟨[.error (.pageFailure 0)], .ok .empty⟩
    let visibility := Visibility.failingAfter 0 (.permission "revoked")
    let estimated := (statisticalFacets script.backend visibility ⟨"*", ["kind"]⟩
      ⟨2 ^ 60, 7, 2⟩ (some ⟨.empty, 2 ^ 61, 5⟩) 5).run ⟨⟨{}, []⟩, 0⟩
    (∃ after, estimated = some (.error .noRoom, after) ∧ after.observed.state.fetches = []) ∧
    ¬ ∃ after, estimated = some (.error (.pageFailure 0), after) := by
  intro script visibility estimated
  have valid : (SamplePlan.mk (2 ^ 60) 7 2).validate = .ok () := by decide
  have asked : (candidates script.backend ⟨"*", ["kind"]⟩ (some ⟨.empty, 2 ^ 61, 5⟩) 2 5).run
      (⟨⟨{}, []⟩, 0⟩ : Bench CallLog Nat) = some (.ok (_, 2 ^ 61), _) := rfl
  have halted := run_statisticalFacets_noRoom valid (by decide) (by decide) asked visibility
  refine ⟨⟨_, halted, rfl⟩, ?_⟩
  rintro ⟨after, failed⟩
  cases halted.symm.trans failed

end VisibleFacets
