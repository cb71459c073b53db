import Mathlib.Data.List.Flatten
import VisibleFacets.Proofs.Access.Principals
import VisibleFacets.Proofs.Facet.Answer

/-!
# More access

A caller who may see more hits gets no lower count at any rank, in any mode: `facetsIn_grows`.
-/

namespace VisibleFacets

theorem count_labelsOf_filter_le {shown revealed : Hit → Bool}
    (included : ∀ hit, shown hit = true → revealed hit = true) (hits : List Hit)
    (facet label : String) :
    (labelsOf (hits.filter shown) facet).count label ≤
      (labelsOf (hits.filter revealed) facet).count label := by
  have sublist := List.monotone_filter_right hits included
  exact (sublist.flatMap fun hit => labels hit.fields facet).count_le label

theorem Corpus.answer_le [Memory] {shown revealed : Hit → Bool}
    (included : ∀ hit, shown hit = true → revealed hit = true) (corpus : Corpus)
    (terms : List Term) (facets : List String) (plan : SamplePlan) (limit : Nat) (mode : Mode) :
    TableLE (corpus.answer terms facets plan shown limit mode)
      (corpus.answer terms facets plan revealed limit mode) := by
  cases mode with
  | secure => exact countFacets_le (count_labelsOf_filter_le included _) facets limit
  | insecure => exact .refl _
  | statistical =>
    rw [answer, answer, SamplePlan.estimate, SamplePlan.estimate]
    split
    · exact countFacets_le (count_labelsOf_filter_le included _) facets limit
    · apply rescale_countFacets_le
      exact (List.monotone_filter_right _ included).length_le

/-- Both callers get tables, and the second's counts no less at every rank. -/
def Grows [Memory] {σ τ υ : Type} (backend : Backend σ) (query : Query) (plan : SamplePlan)
    (mode : Mode) (limit : Nat) (few : Visibility τ) (more : Visibility υ) : Prop :=
  ∃ lower upper, Answers backend few query plan mode limit lower ∧
    Answers backend more query plan mode limit upper ∧ TableLE lower upper

theorem Corpus.grows [Memory] {corpus : Corpus} {query : Query} {terms : List Term}
    {plan : SamplePlan} (steady : corpus.failAfterPages = none)
    (parsed : Query.terms query.text.toList = .ok terms) (valid : plan.validate = .ok ())
    {τ υ : Type} {few : Visibility τ} {more : Visibility υ} {shown revealed : Hit → Bool}
    (fewDecides : few.Decides shown) (moreDecides : more.Decides revealed)
    (included : ∀ hit, shown hit = true → revealed hit = true) (mode : Mode) (limit : Nat) :
    Grows corpus.backend query plan mode limit few more :=
  ⟨_, _, corpus.answers steady parsed valid (fewDecides.on _) mode limit,
    corpus.answers steady parsed valid (moreDecides.on _) mode limit,
    answer_le included corpus terms query.facets plan limit mode⟩

/-- This holds of any two checks of the hits alone, the second of which shows all that the first
does, and so of the principals of a caller and any more of them. -/
theorem facetsIn_grows [Memory] {corpus : Corpus} {query : Query} {terms : List Term}
    {plan : SamplePlan} (steady : corpus.failAfterPages = none)
    (parsed : Query.terms query.text.toList = .ok terms) (valid : plan.validate = .ok ())
    (mode : Mode) (limit : Nat) :
    (∀ {τ υ : Type} {few : Visibility τ} {more : Visibility υ} {shown revealed : Hit → Bool},
      few.Decides shown → more.Decides revealed →
      (∀ hit, shown hit = true → revealed hit = true) →
      Grows corpus.backend query plan mode limit few more) ∧
    ∀ {fewer principals : List String}, fewer ⊆ principals →
      Grows corpus.backend query plan mode limit (.ofPrincipals fewer)
        (.ofPrincipals principals) := by
  constructor
  · intro τ υ few more shown revealed fewDecides moreDecides included
    exact corpus.grows steady parsed valid fewDecides moreDecides included mode limit
  · intro fewer principals subset
    have decides (names : List String) :
        (Visibility.ofPrincipals names).Decides fun hit => canRead names hit.readers :=
      fun _ _ => rfl
    exact corpus.grows steady parsed valid (decides fewer) (decides principals)
      (fun hit admitted => canRead_of_subset subset admitted) mode limit

theorem facetsIn_grows_promoted :
    let corpus : Corpus := { documents := [⟨"a", .ofList [("kind", .string "x")], ["*"]⟩,
      ⟨"b", .ofList [("kind", .string "y")], ["group:eng-*"]⟩, ⟨"c", .empty, ["root"]⟩] }
    let query : Query := ⟨"*", ["kind"]⟩
    let plan : SamplePlan := ⟨2, 7, 2⟩
    Grows corpus.backend query plan .statistical 5 (.ofPredicate fun hit => hit.id = "a")
        (.ofPredicate fun _ => true) ∧
      Grows corpus.backend query plan .secure 5 (.ofPrincipals ["root"])
        (.ofPrincipals ["group:eng-search", "root"]) := by
  intro corpus query plan
  have steady : corpus.failAfterPages = none := rfl
  have parsed : Query.terms query.text.toList = .ok [] := by decide
  have valid : plan.validate = .ok () := rfl
  have added : ["root"] ⊆ ["group:eng-search", "root"] := by decide
  constructor
  · apply (facetsIn_grows steady parsed valid .statistical 5).1 (fun _ _ => rfl) (fun _ _ => rfl)
    intro hit _
    rfl
  · exact (facetsIn_grows steady parsed valid .secure 5).2 added

end VisibleFacets
