import VisibleFacets.Facet.Counting
import VisibleFacets.Proofs.Search.Transcript

/-!
# What checks of hits come to

Checks of hits in a row either succeed, which `Sifts` describes, or there is a first one that fails
(`sifts_or_refuses`). The steps of a count that check hits are determined by this.
-/

namespace VisibleFacets

variable {σ τ : Type}

namespace Visibility

/-- All these hits are checked in order without a failure; the visible ones among them are the
second list. -/
inductive Sifts (visibility : Visibility τ) : τ → List Hit → List Hit → τ → Prop
  | nil {checks : τ} : Sifts visibility checks [] [] checks
  | shown {hit : Hit} {hits visible : List Hit} {checks next last : τ}
      (checked : visibility.check hit checks = (.ok true, next))
      (rest : Sifts visibility next hits visible last) :
      Sifts visibility checks (hit :: hits) (hit :: visible) last
  | hidden {hit : Hit} {hits visible : List Hit} {checks next last : τ}
      (checked : visibility.check hit checks = (.ok false, next))
      (rest : Sifts visibility next hits visible last) :
      Sifts visibility checks (hit :: hits) visible last

def Infallible (visibility : Visibility τ) : Prop :=
  ∀ hit checks, ∃ shown, (visibility.check hit checks).1 = .ok shown

/-- A check that looks at the hit alone and never fails. -/
def Decides (visibility : Visibility τ) (shown : Hit → Bool) : Prop :=
  ∀ hit checks, (visibility.check hit checks).1 = .ok (shown hit)

variable {visibility : Visibility τ}

theorem sifts_or_refuses (visibility : Visibility τ) (hits : List Hit) (checks : τ) :
    (∃ visible last, visibility.Sifts checks hits visible last) ∨
    ∃ before hit after visible middle error next, hits = before ++ hit :: after ∧
      visibility.Sifts checks before visible middle ∧
      visibility.check hit middle = (.error error, next) := by
  induction hits generalizing checks with
  | nil => exact .inl ⟨[], checks, .nil⟩
  | cons hit hits ih =>
    rcases checked : visibility.check hit checks with ⟨_ | shown, next⟩
    · exact .inr ⟨[], hit, hits, [], checks, _, next, rfl, .nil, checked⟩
    · rcases ih next with ⟨visible, last, sifts⟩ |
        ⟨before, refused, after, visible, middle, error, final, rfl, sifts, failed⟩
      · cases shown with
        | true => exact .inl ⟨hit :: visible, last, .shown checked sifts⟩
        | false => exact .inl ⟨visible, last, .hidden checked sifts⟩
      · cases shown with
        | true =>
          exact .inr ⟨hit :: before, refused, after, hit :: visible, middle, error, final, rfl,
            .shown checked sifts, failed⟩
        | false =>
          exact .inr ⟨hit :: before, refused, after, visible, middle, error, final, rfl,
            .hidden checked sifts, failed⟩

theorem Infallible.sifts (infallible : visibility.Infallible) (hits : List Hit) (checks : τ) :
    ∃ visible last, visibility.Sifts checks hits visible last := by
  rcases visibility.sifts_or_refuses hits checks with sifts |
    ⟨_, hit, _, _, middle, _, _, _, _, failed⟩
  · exact sifts
  · obtain ⟨shown, checked⟩ := infallible hit middle
    rw [failed] at checked
    contradiction

/-- A check that looks at the hit alone and never fails, as far as these hits go. -/
def DecidesOn (visibility : Visibility τ) (hits : List Hit) (shown : Hit → Bool) : Prop :=
  ∀ hit ∈ hits, ∀ checks, (visibility.check hit checks).1 = .ok (shown hit)

theorem Decides.on {shown : Hit → Bool} (decides : visibility.Decides shown) (hits : List Hit) :
    visibility.DecidesOn hits shown :=
  fun hit _ => decides hit

theorem DecidesOn.of_subset {shown : Hit → Bool} {hits others : List Hit}
    (decides : visibility.DecidesOn others shown) (subset : hits ⊆ others) :
    visibility.DecidesOn hits shown :=
  fun hit member => decides hit (subset member)

theorem DecidesOn.sifts {shown : Hit → Bool} {hits : List Hit}
    (decides : visibility.DecidesOn hits shown) (checks : τ) :
    ∃ last, visibility.Sifts checks hits (hits.filter shown) last := by
  induction hits generalizing checks with
  | nil => exact ⟨checks, .nil⟩
  | cons hit hits ih =>
    obtain ⟨last, sifts⟩ := ih (decides.of_subset (List.subset_cons_self hit hits))
      (visibility.check hit checks).2
    have decided := decides hit List.mem_cons_self checks
    refine ⟨last, ?_⟩
    cases verdict : shown hit with
    | true =>
      rw [List.filter_cons_of_pos verdict]
      exact .shown (Prod.ext (decided.trans (congrArg _ verdict)) rfl) sifts
    | false =>
      rw [List.filter_cons_of_neg (Bool.not_eq_true _ ▸ verdict)]
      exact .hidden (Prod.ext (decided.trans (congrArg _ verdict)) rfl) sifts

/-- The same check, which also writes down the hits it is asked about. -/
def recorded (visibility : Visibility τ) : Visibility (τ × List Hit) :=
  ⟨fun hit (checks, asked) =>
    ((visibility.check hit checks).1, (visibility.check hit checks).2, asked ++ [hit])⟩

theorem recorded_check {hit : Hit} {checks next : τ} {verdict : Except Error Bool}
    (checked : visibility.check hit checks = (verdict, next)) (asked : List Hit) :
    visibility.recorded.check hit (checks, asked) = (verdict, next, asked ++ [hit]) := by
  show ((visibility.check hit checks).1, (visibility.check hit checks).2, asked ++ [hit]) = _
  rw [checked]

theorem Sifts.recorded {hits visible : List Hit} {checks last : τ}
    (sifts : visibility.Sifts checks hits visible last) (asked : List Hit) :
    visibility.recorded.Sifts (checks, asked) hits visible (last, asked ++ hits) := by
  induction sifts generalizing asked with
  | nil =>
    rw [List.append_nil]
    exact .nil
  | @shown hit hits _ _ _ _ checked _ ih =>
    refine .shown (recorded_check checked asked) ?_
    rw [List.append_cons asked hit hits]
    exact ih _
  | @hidden hit hits _ _ _ _ checked _ ih =>
    refine .hidden (recorded_check checked asked) ?_
    rw [List.append_cons asked hit hits]
    exact ih _

theorem Sifts.of_recorded {hits visible : List Hit} {checks last : τ × List Hit}
    (sifts : visibility.recorded.Sifts checks hits visible last) :
    visibility.Sifts checks.1 hits visible last.1 := by
  induction sifts with
  | nil => exact .nil
  | shown checked _ ih =>
    obtain ⟨decided, rfl⟩ := Prod.mk.inj checked
    exact .shown (Prod.ext decided rfl) ih
  | hidden checked _ ih =>
    obtain ⟨decided, rfl⟩ := Prod.mk.inj checked
    exact .hidden (Prod.ext decided rfl) ih

theorem Sifts.length_le {hits visible : List Hit} {checks last : τ}
    (sifts : visibility.Sifts checks hits visible last) : visible.length ≤ hits.length := by
  induction sifts with
  | nil => exact Nat.le_refl 0
  | shown _ _ ih => exact Nat.succ_le_succ ih
  | hidden _ _ ih => exact Nat.le_succ_of_le ih

/-- Whoever writes down the hits asked about has written down these. -/
theorem Sifts.asked {hits visible : List Hit} {checks last : τ × List Hit}
    (sifts : visibility.recorded.Sifts checks hits visible last) :
    last.2 = checks.2 ++ hits := by
  induction sifts with
  | nil => rw [List.append_nil]
  | shown checked _ ih =>
    obtain ⟨-, rfl⟩ := Prod.mk.inj checked
    rw [ih, List.append_assoc, List.singleton_append]
  | hidden checked _ ih =>
    obtain ⟨-, rfl⟩ := Prod.mk.inj checked
    rw [ih, List.append_assoc, List.singleton_append]

end Visibility

/-! ## The steps of a count -/

section Steps

variable {backend : Backend σ} {visibility : Visibility τ} {query : Query} {batchSize : Nat}
  {bench : Bench σ τ} {hits : List (Hit × Observed σ)} {visible : List Hit} {checks : τ}
  {failure : Option Error} {last : Observed σ}

theorem inspect_shown {hit : Hit} {checks next : τ}
    (checked : visibility.check hit checks = (.ok true, next)) (inspection : Inspection) :
    inspect visibility hit (inspection, checks) =
      (.ok (), ⟨inspection.checked + 1, hit :: inspection.visible⟩, next) := by
  simp only [inspect, checked]

theorem inspect_hidden {hit : Hit} {checks next : τ}
    (checked : visibility.check hit checks = (.ok false, next)) (inspection : Inspection) :
    inspect visibility hit (inspection, checks) =
      (.ok (), ⟨inspection.checked + 1, inspection.visible⟩, next) := by
  simp only [inspect, checked]

theorem inspect_refused {hit : Hit} {checks next : τ} {error : Error}
    (failed : visibility.check hit checks = (.error error, next)) (inspection : Inspection) :
    inspect visibility hit (inspection, checks) =
      (.error error, ⟨inspection.checked + 1, inspection.visible⟩, next) := by
  simp only [inspect, failed]

theorem Visibility.Sifts.accepts {hits : List Hit} {checks last : τ}
    (sifts : visibility.Sifts checks hits visible last) (inspection : Inspection) :
    Source.Accepts (inspect visibility) (inspection, checks) hits
      (⟨inspection.checked + hits.length, visible.reverse ++ inspection.visible⟩, last) := by
  induction sifts generalizing inspection with
  | nil =>
    rw [List.reverse_nil, List.nil_append]
    exact .nil
  | shown checked _ ih =>
    refine .cons (inspect_shown checked inspection) ?_
    simpa [Nat.add_assoc, Nat.add_comm 1] using ih ⟨inspection.checked + 1, _ :: inspection.visible⟩
  | hidden checked _ ih =>
    refine .cons (inspect_hidden checked inspection) ?_
    simpa [Nat.add_assoc, Nat.add_comm 1] using ih ⟨inspection.checked + 1, inspection.visible⟩

theorem Visibility.Sifts.of_accepts {hits : List Hit} {checks last : τ}
    {inspection final : Inspection}
    (accepts : Source.Accepts (inspect visibility) (inspection, checks) hits (final, last)) :
    ∃ visible, visibility.Sifts checks hits visible last ∧
      final = ⟨inspection.checked + hits.length, visible.reverse ++ inspection.visible⟩ := by
  induction hits generalizing inspection checks with
  | nil =>
    cases accepts
    exact ⟨[], .nil, rfl⟩
  | cons hit hits ih =>
    cases accepts with
    | cons accepted rest =>
      rcases checked : visibility.check hit checks with ⟨_ | _ | _, next⟩
      case error =>
        rw [inspect_refused checked] at accepted
        cases accepted
      case ok.false =>
        rw [inspect_hidden checked] at accepted
        cases accepted
        obtain ⟨visible, sifts, rfl⟩ := ih rest
        refine ⟨visible, .hidden checked sifts, ?_⟩
        simp [Nat.add_assoc, Nat.add_comm 1]
      case ok.true =>
        rw [inspect_shown checked] at accepted
        cases accepted
        obtain ⟨visible, sifts, rfl⟩ := ih rest
        refine ⟨hit :: visible, .shown checked sifts, ?_⟩
        simp [Nat.add_assoc, Nat.add_comm 1]

theorem run_inspectHits {hits : List Hit} {checks last : τ} (observed : Observed σ)
    (sifts : visibility.Sifts checks hits visible last) :
    (inspectHits visibility hits).run ⟨observed, checks⟩ =
      some (.ok ⟨hits.length, visible.reverse⟩, ⟨observed, last⟩) := by
  have gives : Source.Gives Source.ofList (hits.map Except.ok) hits ([] : List (Except Error Hit)) :=
    List.append_nil (hits.map Except.ok) ▸ .ofList hits []
  have read := Source.fold_length gives (sifts.accepts {})
  rw [Counting.run, inspectHits, inspectItems, List.length_map, read]
  simp [Except.map]

theorem run_inspectHits_refused {before after : List Hit} {hit : Hit} {checks middle next : τ}
    {error : Error} (observed : Observed σ)
    (sifts : visibility.Sifts checks before visible middle)
    (failed : visibility.check hit middle = (.error error, next)) :
    (inspectHits visibility (before ++ hit :: after)).run ⟨observed, checks⟩ =
      some (.error error, ⟨observed, next⟩) := by
  have gives := Source.Gives.ofList before ((hit :: after).map (Except.ok (ε := Error)))
  have told : Source.ofList.next ((hit :: after).map (Except.ok (ε := Error))) =
      (some (.ok hit), after.map .ok) := rfl
  rw [Counting.run, inspectHits, inspectItems, List.map_append, List.length_append, List.length_map,
    List.length_map, List.length_cons, Source.fold_append gives (sifts.accepts {}),
    Source.fold_refusal told (inspect_refused failed _)]
  rfl

theorem run_drawHits_of [Memory] {population size seed : Nat}
    {outcome : Except (Halt Error) (List Hit)} {dice : Generator} {pager : Pager}
    (sampled : sample seededDice (Pager.source backend query) population size
      (Generator.ofSeed seed) (.start batchSize, bench.observed) = (outcome, dice, pager, last)) :
    (drawHits backend query batchSize population size seed).run bench =
      some (outcome.mapError Halt.error, { bench with observed := last }) := by
  rw [Counting.run, drawHits, sampled]

theorem run_readHits_of {outcome : Except Error Unit} {inspection : Inspection} {pager : Pager}
    (drained : (Pager.source backend query).drain (inspect visibility) ({}, bench.checks)
      (.start batchSize, bench.observed) = some (outcome, (inspection, checks), pager, last)) :
    (readHits backend visibility query batchSize).run bench =
      some (outcome.map fun _ => inspection, ⟨last, checks⟩) := by
  rw [Counting.run, readHits, drained]

theorem readHits_eq_some {result : Except Error Inspection × Bench σ τ}
    (ended : (readHits backend visibility query batchSize).run bench = some result) :
    ∃ outcome inspection checks pager last,
      (Pager.source backend query).drain (inspect visibility) ({}, bench.checks)
        (.start batchSize, bench.observed) = some (outcome, (inspection, checks), pager, last) ∧
      result = (outcome.map fun _ => inspection, ⟨last, checks⟩) := by
  rcases drained : (Pager.source backend query).drain (inspect visibility) ({}, bench.checks)
      (.start batchSize, bench.observed) with _ | ⟨outcome, ⟨inspection, checks⟩, pager, last⟩
  · rw [Counting.run, readHits, drained] at ended
    cases ended
  · exact ⟨outcome, inspection, checks, pager, last, rfl,
      Option.some.inj (ended.symm.trans (run_readHits_of drained))⟩

theorem run_readHits (positive : 0 < batchSize)
    (transcript : Transcript backend query batchSize 0 bench.observed hits failure last)
    (sifts : visibility.Sifts bench.checks (hits.map Prod.fst) visible checks) :
    (readHits backend visibility query batchSize).run bench =
      some (failure.elim (.ok ⟨hits.length, visible.reverse⟩) .error, ⟨last, checks⟩) := by
  obtain ⟨pager, after, gives, ended⟩ := Pager.gives_transcript positive transcript
  have drained := Source.drain_append gives (sifts.accepts {})
  cases failure with
  | none =>
    rw [run_readHits_of (drained.trans (Source.drain_end ended))]
    simp [Except.map]
  | some error => exact run_readHits_of (drained.trans (Source.drain_failure ended))

theorem run_readHits_refused (positive : 0 < batchSize) {before after : List (Hit × Observed σ)}
    {hit : Hit} {seen : Observed σ} {error : Error} {next : τ}
    (transcript : Transcript backend query batchSize 0 bench.observed
      (before ++ (hit, seen) :: after) failure last)
    (sifts : visibility.Sifts bench.checks (before.map Prod.fst) visible checks)
    (failed : visibility.check hit checks = (.error error, next)) :
    (readHits backend visibility query batchSize).run bench =
      some (.error error, ⟨seen, next⟩) := by
  obtain ⟨pager, gives, followsCons, positive⟩ := (Pager.Follows.start transcript).gives positive
  obtain ⟨reached, told⟩ := followsCons.next_cons positive
  have drained := Source.drain_append gives (sifts.accepts {})
  exact run_readHits_of (drained.trans (Source.drain_refusal told (inspect_refused failed _)))

end Steps

end VisibleFacets
