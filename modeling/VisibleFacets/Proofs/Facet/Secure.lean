import VisibleFacets.Facet.Mode
import VisibleFacets.Proofs.Facet.Inspection
import VisibleFacets.Proofs.Facet.Ranking
import VisibleFacets.Proofs.Search.Pages
import VisibleFacets.Search.Script

/-!
# Secure counts

A secure count is determined by what reading the query tells and by the checks of the hits:
`SecureOutcome` lists what it can come to, and `secureFacets_outcome` says that it does. On a corpus
it always comes to a table (`Corpus.run_secureFacets`).
-/

namespace VisibleFacets

variable {σ τ : Type}

def labelsOf (hits : List Hit) (facet : String) : List String :=
  hits.flatMap fun hit => labels hit.fields facet

theorem labelsOf_perm {first second : List Hit}
    (same : (first.map Hit.fields).Perm (second.map Hit.fields)) (facet : String) :
    (labelsOf first facet).Perm (labelsOf second facet) := by
  have labelled := same.flatMap_right fun fields => labels fields facet
  simpa only [labelsOf, List.flatMap_map] using labelled

/-- The hits, the failure if one came after them, and what was observed in the end, are those of a
transcript. A count of them comes to an outcome and a bench. -/
inductive SecureOutcome (visibility : Visibility τ) (facets : List String) (limit : Nat)
    (checks : τ) (hits : List (Hit × Observed σ)) (failure : Option Error) (last : Observed σ) :
    Except Error FacetTable → Bench σ τ → Prop
  /-- No fetch and no check fails: the table of the visible hits. -/
  | counted {visible : List Hit} {checked : τ} {table : FacetTable} (ended : failure = none)
      (sifts : visibility.Sifts checks (hits.map Prod.fst) visible checked)
      (tabulates : Tabulates (labelsOf visible) facets limit table) :
      SecureOutcome visibility facets limit checks hits failure last (.ok table)
        (Bench.report ⟨last, checked⟩ [.event (.secureComplete hits.length visible.length)])
  /-- A check is the first to fail: nothing is fetched after the page of its hit. -/
  | refused {before after : List (Hit × Observed σ)} {hit : Hit} {seen : Observed σ}
      {visible : List Hit} {checked next : τ} {error : Error}
      (split : hits = before ++ (hit, seen) :: after)
      (sifts : visibility.Sifts checks (before.map Prod.fst) visible checked)
      (failed : visibility.check hit checked = (.error error, next)) :
      SecureOutcome visibility facets limit checks hits failure last (.error error) ⟨seen, next⟩
  /-- A fetch is the first to fail: every hit of the pages before it was checked. -/
  | cut {visible : List Hit} {checked : τ} {error : Error} (failed : failure = some error)
      (sifts : visibility.Sifts checks (hits.map Prod.fst) visible checked) :
      SecureOutcome visibility facets limit checks hits failure last (.error error) ⟨last, checked⟩

variable {backend : Backend σ} {visibility : Visibility τ} {query : Query} {batchSize : Nat}
  {bench : Bench σ τ} {hits : List (Hit × Observed σ)} {visible : List Hit} {checks : τ}
  {last : Observed σ}

theorem run_secureFacets_ok (positive : 0 < batchSize) {inspection : Inspection}
    {after : Bench σ τ}
    (read : (readHits backend visibility query batchSize).run bench = some (.ok inspection, after))
    (limit : Nat) :
    (secureFacets backend visibility query batchSize limit).run bench =
      some (.ok (countFacets (labelsOf inspection.visible) query.facets limit),
        after.report [.event (.secureComplete inspection.checked inspection.visible.length)]) := by
  rw [secureFacets, if_neg (Nat.ne_of_gt positive), Counting.run_bind_ok read,
    Counting.run_bind_ok (Counting.run_emit _ _), Counting.run_pure]
  rfl

theorem run_secureFacets_error (positive : 0 < batchSize) {error : Error} {after : Bench σ τ}
    (failed : (readHits backend visibility query batchSize).run bench =
      some (.error error, after)) (limit : Nat) :
    (secureFacets backend visibility query batchSize limit).run bench =
      some (.error error, after) := by
  rw [secureFacets, if_neg (Nat.ne_of_gt positive), Counting.run_bind_error failed]

theorem secureFacets_counted (positive : 0 < batchSize)
    (transcript : Transcript backend query batchSize 0 bench.observed hits none last)
    (sifts : visibility.Sifts bench.checks (hits.map Prod.fst) visible checks) (limit : Nat) :
    ∃ table, Tabulates (labelsOf visible) query.facets limit table ∧
      (secureFacets backend visibility query batchSize limit).run bench =
        some (.ok table, Bench.report ⟨last, checks⟩
          [.event (.secureComplete hits.length visible.length)]) := by
  refine ⟨countFacets (labelsOf visible.reverse) query.facets limit, ?_, ?_⟩
  · have tabulates := countFacets_tabulates (labelsOf visible.reverse) query.facets limit
    exact tabulates.of_perm (labelsOf_perm (visible.reverse_perm.map Hit.fields))
  · rw [run_secureFacets_ok positive (run_readHits positive transcript sifts), List.length_reverse]

theorem Backend.Serves.run_secureFacets {all : List Hit} {served : Nat → σ}
    (serves : backend.Serves query batchSize all served) (positive : 0 < batchSize)
    (start : bench.observed.state = served 0)
    (sifts : visibility.Sifts bench.checks all visible checks) (limit : Nat) :
    ∃ signals, (secureFacets backend visibility query batchSize limit).run bench =
      some (.ok (countFacets (labelsOf visible) query.facets limit),
        ⟨⟨served (all.length / batchSize + 1), signals⟩, checks⟩) := by
  obtain ⟨hits, last, transcript, told⟩ := serves.transcript positive start
  rw [← told.order] at sifts
  obtain ⟨table, tabulates, counted⟩ := secureFacets_counted positive transcript sifts limit
  have same := tabulates.unique (countFacets_tabulates (labelsOf visible) query.facets limit)
  rw [counted, same, ← told.ended]
  exact ⟨_, rfl⟩

theorem Corpus.run_secureFacets [Memory] {corpus : Corpus} {terms : List Term}
    (steady : corpus.failAfterPages = none) (parsed : Query.terms query.text.toList = .ok terms)
    (positive : 0 < batchSize) (bench : Bench Usage τ)
    (sifts : visibility.Sifts bench.checks (corpus.hits terms) visible checks) (limit : Nat) :
    ∃ signals, (secureFacets corpus.backend visibility query batchSize limit).run bench =
      some (.ok (countFacets (labelsOf visible) query.facets limit),
        ⟨⟨bench.observed.state.fetched ((corpus.hits terms).length / batchSize + 1), signals⟩,
          checks⟩) :=
  (serves steady parsed batchSize bench.observed.state).run_secureFacets positive rfl sifts limit

/-- Whatever a backend answers, if its pages come to an end or a failure, and whatever the checks
do: the table of all visible hits, or the first failure with nothing done after it. -/
theorem secureFacets_outcome {failure : Option Error} (positive : 0 < batchSize)
    (transcript : Transcript backend query batchSize 0 bench.observed hits failure last)
    (limit : Nat) :
    ∃ outcome after,
      (secureFacets backend visibility query batchSize limit).run bench = some (outcome, after) ∧
      SecureOutcome visibility query.facets limit bench.checks hits failure last outcome after := by
  rcases visibility.sifts_or_refuses (hits.map Prod.fst) bench.checks with
    ⟨visible, checked, sifts⟩ |
    ⟨before, hit, after, visible, checked, error, next, split, sifts, failed⟩
  · cases failure with
    | none =>
      obtain ⟨table, tabulates, counted⟩ := secureFacets_counted positive transcript sifts limit
      exact ⟨.ok table, _, counted, .counted rfl sifts tabulates⟩
    | some error =>
      refine ⟨.error error, ⟨last, checked⟩, ?_, .cut rfl sifts⟩
      exact run_secureFacets_error positive (run_readHits positive transcript sifts) limit
  · obtain ⟨earlier, others, rfl, rfl, rest⟩ := List.map_eq_append_iff.mp split
    obtain ⟨⟨_, seen⟩, later, rfl, rfl, rfl⟩ := List.map_eq_cons_iff.mp rest
    refine ⟨.error error, ⟨seen, next⟩, ?_, .refused rfl sifts failed⟩
    exact run_secureFacets_error positive
      (run_readHits_refused positive transcript sifts failed) limit

theorem secureFacets_outcome_script :
    let backend := Script.backend ⟨[.ok ⟨[{ id := "first" }], 2⟩, .error (.pageFailure 1)],
      .ok .empty⟩
    let visibility := Visibility.failingAfter 1 (.permission "revoked")
    let hits := [({ id := "first" }, ⟨⟨[(1, 0)], 0⟩, [.measurement .pageFetched]⟩)]
    let last := ⟨⟨[(1, 0), (1, 1)], 0⟩, [.measurement .pageFetched]⟩
    Transcript backend ⟨"*", ["kind"]⟩ 1 0 ⟨{}, []⟩ hits (some (.pageFailure 1)) last ∧
    ∃ outcome after,
      (secureFacets backend visibility ⟨"*", ["kind"]⟩ 1 10).run ⟨⟨{}, []⟩, 0⟩ =
        some (outcome, after) ∧
      SecureOutcome visibility ["kind"] 10 0 hits (some (.pageFailure 1)) last outcome after := by
  intro backend visibility hits last
  have served : backend.fetchPage ⟨"*", ["kind"]⟩ 1 0 (Observed.mk {} []).state =
      (.ok ⟨[{ id := "first" }], 2⟩, ⟨[(1, 0)], 0⟩) := rfl
  have rest : Transcript backend ⟨"*", ["kind"]⟩ 1 1
      ⟨⟨[(1, 0)], 0⟩, [.measurement .pageFetched]⟩ [] (some (.pageFailure 1)) last := .failed rfl
  have transcript : Transcript backend ⟨"*", ["kind"]⟩ 1 0 ⟨{}, []⟩ hits
      (some (.pageFailure 1)) last := .full served (Nat.le_refl 1) rest
  exact ⟨transcript, secureFacets_outcome Nat.one_pos transcript 10⟩

end VisibleFacets
