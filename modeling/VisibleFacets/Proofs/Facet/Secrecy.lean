import VisibleFacets.Proofs.Facet.Secure

/-!
# What secure counts keep to themselves

The table of a secure count depends on the fields of the visible matching documents, and on nothing
else: `secureFacets_hides`.
-/

namespace VisibleFacets

variable {τ : Type} {visibility : Visibility τ} {shown : Hit → Bool} {query : Query}
  {terms : List Term}

namespace Corpus

variable [Memory]

def visible (corpus : Corpus) (terms : List Term) (shown : Hit → Bool) : List Hit :=
  (corpus.hits terms).filter shown

theorem secureFacets_tabulates {corpus : Corpus} (steady : corpus.failAfterPages = none)
    (parsed : Query.terms query.text.toList = .ok terms) (decides : visibility.Decides shown)
    {batchSize : Nat} (positive : 0 < batchSize) (limit : Nat) (bench : Bench Usage τ) :
    ∃ table after, Tabulates (labelsOf (corpus.visible terms shown)) query.facets limit table ∧
      (secureFacets corpus.backend visibility query batchSize limit).run bench =
        some (.ok table, after) := by
  obtain ⟨last, sifts⟩ := (decides.on (corpus.hits terms)).sifts bench.checks
  obtain ⟨signals, counted⟩ := run_secureFacets steady parsed positive bench sifts limit
  exact ⟨_, _, countFacets_tabulates _ _ _, counted⟩

end Corpus

/-- Two corpora with the same fields of visible matching documents, in any order and among any
others, have the same table. -/
theorem secureFacets_hides [Memory] {first second : Corpus}
    (firstSteady : first.failAfterPages = none) (secondSteady : second.failAfterPages = none)
    (parsed : Query.terms query.text.toList = .ok terms) (decides : visibility.Decides shown)
    (same : ((first.visible terms shown).map Hit.fields).Perm
      ((second.visible terms shown).map Hit.fields))
    {firstSize secondSize : Nat} (firstPositive : 0 < firstSize) (secondPositive : 0 < secondSize)
    (limit : Nat) (firstBench secondBench : Bench Usage τ) :
    ∃ table firstAfter secondAfter,
      (secureFacets first.backend visibility query firstSize limit).run firstBench =
        some (.ok table, firstAfter) ∧
      (secureFacets second.backend visibility query secondSize limit).run secondBench =
        some (.ok table, secondAfter) := by
  obtain ⟨table, firstAfter, tabulates, firstRun⟩ :=
    Corpus.secureFacets_tabulates firstSteady parsed decides firstPositive limit firstBench
  obtain ⟨other, secondAfter, tabulatesOther, secondRun⟩ :=
    Corpus.secureFacets_tabulates secondSteady parsed decides secondPositive limit secondBench
  have equal : table = other := (tabulates.of_perm (labelsOf_perm same)).unique tabulatesOther
  exact ⟨table, firstAfter, secondAfter, firstRun, equal ▸ secondRun⟩

theorem secureFacets_hides_reordered :
    let shared (id kind : String) : Document := ⟨id, .ofList [("kind", .string kind)], []⟩
    let secret : Document := ⟨"c", .ofList [("kind", .string "x")], ["root"]⟩
    let first : Corpus := { documents := [shared "a" "x", shared "b" "y"] }
    let second : Corpus := { documents := [shared "b" "y", secret, shared "a" "x"] }
    let visibility := Visibility.ofPredicate fun hit => hit.readers.isEmpty
    ∃ table firstAfter secondAfter,
      (secureFacets first.backend visibility ⟨"*", ["kind"]⟩ 1 5).run ⟨⟨{}, []⟩, 0⟩ =
        some (.ok table, firstAfter) ∧
      (secureFacets second.backend visibility ⟨"*", ["kind"]⟩ 2 5).run ⟨⟨{}, []⟩, 0⟩ =
        some (.ok table, secondAfter) := by
  intro shared secret first second visibility
  have parsed : Query.terms (Query.mk "*" ["kind"]).text.toList = .ok [] := by decide
  have decides : visibility.Decides fun hit => hit.readers.isEmpty := fun _ _ => rfl
  have same : ((first.visible [] fun hit => hit.readers.isEmpty).map Hit.fields).Perm
      ((second.visible [] fun hit => hit.readers.isEmpty).map Hit.fields) := .swap _ _ _
  have firstSteady : first.failAfterPages = none := rfl
  have secondSteady : second.failAfterPages = none := rfl
  exact secureFacets_hides firstSteady secondSteady parsed decides same Nat.one_pos Nat.two_pos 5
    ⟨⟨{}, []⟩, 0⟩ ⟨⟨{}, []⟩, 0⟩

end VisibleFacets
