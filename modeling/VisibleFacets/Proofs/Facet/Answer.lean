import VisibleFacets.Proofs.Facet.Estimate
import VisibleFacets.Proofs.Facet.Falling
import VisibleFacets.Proofs.Facet.Secrecy

/-!
# What each mode answers

On a corpus, with a check that looks at the hits alone, every mode ends with a table that can be
written down (`Corpus.answers`). The modes agree where all documents are visible or none is
(`facetsIn_agree`), and asking for fewer labels cuts the lists (`facetsIn_take`).
-/

namespace VisibleFacets

variable {σ τ : Type}

/-- Without a snapshot, and whatever happened before, the mode counts to its end and this is the
table. -/
def Answers [Memory] (backend : Backend σ) (visibility : Visibility τ) (query : Query)
    (plan : SamplePlan) (mode : Mode) (limit : Nat) (table : FacetTable) : Prop :=
  ∃ count, facetsIn mode backend visibility query plan none = .ok count ∧
    ∀ bench, ∃ after, (count limit).run bench = some (.ok table, after)

namespace Corpus

variable [Memory] {corpus : Corpus} {visibility : Visibility τ} {shown : Hit → Bool} {query : Query}
  {terms : List Term} {plan : SamplePlan}

theorem table_eq (parsed : Query.terms query.text.toList = .ok terms) (limit : Nat) :
    corpus.table query limit =
      .ok (countFacets (labelsOf (corpus.hits terms)) query.facets limit) := by
  have labelled : (fun facet => (corpus.selected terms).flatMap fun document =>
      labels document.fields facet) = labelsOf (corpus.hits terms) := by
    funext facet
    rw [labelsOf, hits, List.flatMap_map]
    rfl
  rw [table, matching_eq parsed, ← labelled]
  rfl

/-- The table that a mode counts for a caller who may see these hits. -/
def answer (corpus : Corpus) (terms : List Term) (facets : List String) (plan : SamplePlan)
    (shown : Hit → Bool) (limit : Nat) : Mode → FacetTable
  | .secure => countFacets (labelsOf (corpus.visible terms shown)) facets limit
  | .statistical =>
    plan.estimate facets limit (corpus.hits terms).length
      (countFacets (labelsOf (corpus.hits terms)) facets limit)
      ((drawn plan.sampleSize plan.seed (corpus.hits terms)).filter shown)
  | .insecure => countFacets (labelsOf (corpus.hits terms)) facets limit

theorem answers (steady : corpus.failAfterPages = none)
    (parsed : Query.terms query.text.toList = .ok terms) (valid : plan.validate = .ok ())
    (decides : visibility.DecidesOn (corpus.hits terms) shown) (mode : Mode) (limit : Nat) :
    Answers corpus.backend visibility query plan mode limit
      (corpus.answer terms query.facets plan shown limit mode) := by
  obtain ⟨sizePositive, positive⟩ := plan.validate_eq_ok_iff.mp valid
  have tabled : corpus.table query limit = _ := table_eq parsed limit
  refine ⟨_, by rw [facetsIn, valid]; rfl, fun bench => ?_⟩
  cases mode with
  | secure =>
    obtain ⟨last, sifts⟩ := decides.sifts bench.checks
    obtain ⟨signals, counted⟩ := run_secureFacets steady parsed positive bench sifts limit
    exact ⟨_, counted⟩
  | statistical =>
    have decidesDrawn := decides.of_subset (drawn_subset plan.sampleSize plan.seed _)
    obtain ⟨last, sifts⟩ := decidesDrawn.sifts bench.checks
    obtain ⟨signals, asked⟩ := run_candidates steady parsed tabled plan.batchSize bench
    obtain ⟨signals, estimated⟩ := run_statisticalFacets_asked steady parsed valid asked sifts
    exact ⟨_, estimated⟩
  | insecure => exact ⟨_, run_insecureFacets tabled bench⟩

/-! ## The extremes of visibility -/

theorem answer_all (facets : List String) (limit : Nat) (mode : Mode) :
    corpus.answer terms facets plan (fun _ => true) limit mode =
      countFacets (labelsOf (corpus.hits terms)) facets limit := by
  cases mode with
  | secure => rw [answer, visible, List.filter_true]
  | insecure => rfl
  | statistical =>
    rw [answer, List.filter_true, SamplePlan.estimate]
    split
    case isTrue few => rw [drawn_of_length_le _ (Nat.le_of_lt few)]
    case isFalse enough =>
      have full : rescale plan.sampleSize plan.sampleSize = id := by
        funext entries
        exact if_pos (.inr (Nat.le_refl _))
      rw [length_drawn _ (Nat.not_lt.mp enough), full]
      apply Dict.ext_get?
      simp

theorem get?_answer_none (sizePositive : 0 < plan.sampleSize) (facets : List String) (limit : Nat)
    {mode : Mode} (checked : mode ≠ .insecure) (facet : String) :
    (corpus.answer terms facets plan (fun _ => false) limit mode).get? facet =
      if facet ∈ facets then some [] else none := by
  have empty : (countFacets (labelsOf []) facets limit).get? facet =
      if facet ∈ facets then some [] else none := by
    rw [get?_countFacets]
    simp [labelsOf, tally, entriesOf, Dict.empty, topEntries]
  cases mode with
  | secure => rw [answer, visible, List.filter_false, empty]
  | insecure => contradiction
  | statistical =>
    rw [answer, List.filter_false, SamplePlan.estimate]
    split
    case isTrue => exact empty
    case isFalse =>
      rw [Dict.get?_mapValues, get?_countFacets, List.length_nil]
      split
      · rw [Option.map_some, rescale_zero sizePositive]
      · rfl

/-! ## Fewer labels -/

theorem answer_take (facets : List String) {limit wide : Nat} (narrower : limit ≤ wide)
    (mode : Mode) :
    (corpus.answer terms facets plan shown wide mode).mapValues (·.take limit) =
      corpus.answer terms facets plan shown limit mode := by
  cases mode with
  | secure => exact countFacets_take _ facets narrower
  | insecure => exact countFacets_take _ facets narrower
  | statistical =>
    rw [answer, answer, SamplePlan.estimate, SamplePlan.estimate]
    split
    · exact countFacets_take _ facets narrower
    · exact rescale_countFacets_take _ facets narrower _ _

end Corpus

section Modes

variable {visibility : Visibility τ} {shown : Hit → Bool} {query : Query} {terms : List Term}
  {plan : SamplePlan}

/-- Where every document is visible all modes end with the table of all matching documents. Where
none is, the modes that check end with one table, in which every facet has an empty list. -/
theorem facetsIn_agree [Memory] {corpus : Corpus} (steady : corpus.failAfterPages = none)
    (parsed : Query.terms query.text.toList = .ok terms) (sizePositive : 0 < plan.sampleSize)
    (positive : 0 < plan.batchSize) (limit : Nat) :
    (visibility.DecidesOn (corpus.documents.map Document.toHit) (fun _ => true) →
      ∃ table, Tabulates (labelsOf (corpus.hits terms)) query.facets limit table ∧
        ∀ mode, Answers corpus.backend visibility query plan mode limit table) ∧
    (visibility.DecidesOn (corpus.documents.map Document.toHit) (fun _ => false) →
      ∃ table, Answers corpus.backend visibility query plan .secure limit table ∧
        Answers corpus.backend visibility query plan .statistical limit table ∧
        ∀ facet, table.get? facet = if facet ∈ query.facets then some [] else none) := by
  have valid := plan.validate_eq_ok_iff.mpr ⟨sizePositive, positive⟩
  have matched : corpus.hits terms ⊆ corpus.documents.map Document.toHit :=
    List.map_subset Document.toHit (List.filter_subset_self _)
  constructor
  · intro decides
    refine ⟨_, countFacets_tabulates _ _ _, fun mode => ?_⟩
    rw [← corpus.answer_all query.facets limit mode]
    exact corpus.answers steady parsed valid (decides.of_subset matched) mode limit
  · intro decides
    have answers := corpus.answers steady parsed valid (decides.of_subset matched)
    have same : corpus.answer terms query.facets plan (fun _ => false) limit .statistical =
        corpus.answer terms query.facets plan (fun _ => false) limit .secure := by
      apply Dict.ext_get?
      intro facet
      rw [corpus.get?_answer_none sizePositive _ _ (by decide),
        corpus.get?_answer_none sizePositive _ _ (by decide)]
    exact ⟨_, answers .secure limit, same ▸ answers .statistical limit,
      corpus.get?_answer_none sizePositive _ _ (by decide)⟩

theorem facetsIn_agree_repeated :
    let corpus : Corpus := { documents :=
      [⟨"a", .ofList [("kind", .array [.string "x", .string "y"])], ["all"]⟩,
        ⟨"b", .ofList [("kind", .string "y")], []⟩] }
    let query : Query := ⟨"*", ["kind", "kind"]⟩
    let plan : SamplePlan := ⟨2, 7, 1⟩
    (∃ table, Tabulates (labelsOf (corpus.hits [])) ["kind", "kind"] 1 table ∧
      ∀ mode, Answers corpus.backend (.ofPredicate fun _ => true) query plan mode 1 table) ∧
    ∃ table, Answers corpus.backend (.ofPredicate fun _ => false) query plan .secure 1 table ∧
      Answers corpus.backend (.ofPredicate fun _ => false) query plan .statistical 1 table ∧
      table.get? "kind" = some [] := by
  intro corpus query plan
  have steady : corpus.failAfterPages = none := rfl
  have parsed : Query.terms query.text.toList = .ok [] := by decide
  have sizePositive : 0 < plan.sampleSize := Nat.two_pos
  have positive : 0 < plan.batchSize := Nat.one_pos
  have decides (shown : Bool) (hits : List Hit) :
      (Visibility.ofPredicate fun _ => shown).DecidesOn hits fun _ => shown := fun _ _ _ => rfl
  constructor
  · exact (facetsIn_agree steady parsed sizePositive positive 1).1 (decides true _)
  · obtain ⟨table, secure, statistical, empty⟩ :=
      (facetsIn_agree steady parsed sizePositive positive 1).2 (decides false _)
    exact ⟨table, secure, statistical, empty "kind"⟩

/-- The table for fewer labels is the table for more with every list cut. -/
theorem facetsIn_take [Memory] {corpus : Corpus} (steady : corpus.failAfterPages = none)
    (parsed : Query.terms query.text.toList = .ok terms) (valid : plan.validate = .ok ())
    (decides : visibility.Decides shown) (mode : Mode) {limit wide : Nat}
    (narrower : limit ≤ wide) :
    ∃ table, Answers corpus.backend visibility query plan mode wide table ∧
      Answers corpus.backend visibility query plan mode limit
        (table.mapValues (·.take limit)) := by
  have answers := corpus.answers steady parsed valid (decides.on _) mode
  refine ⟨_, answers wide, ?_⟩
  rw [corpus.answer_take query.facets narrower]
  exact answers limit

theorem facetsIn_take_tied :
    let corpus : Corpus := { documents := [⟨"a", .ofList [("kind", .string "y")], ["all"]⟩,
      ⟨"b", .ofList [("kind", .string "x")], ["root"]⟩, ⟨"c", .empty, ["all"]⟩] }
    let query : Query := ⟨"*", ["kind"]⟩
    let visibility := Visibility.ofPredicate fun hit => "all" ∈ hit.readers
    let plan : SamplePlan := ⟨2, 7, 2⟩
    ∃ table, Answers corpus.backend visibility query plan .statistical 2 table ∧
      Answers corpus.backend visibility query plan .statistical 1
        (table.mapValues (·.take 1)) := by
  intro corpus query visibility plan
  have steady : corpus.failAfterPages = none := rfl
  have parsed : Query.terms query.text.toList = .ok [] := by decide
  have valid : plan.validate = .ok () := rfl
  have decides : visibility.Decides fun hit => "all" ∈ hit.readers := fun _ _ => rfl
  exact facetsIn_take steady parsed valid decides .statistical (Nat.le_succ 1)

end Modes

end VisibleFacets
