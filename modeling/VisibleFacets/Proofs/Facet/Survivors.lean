import Mathlib.Data.List.Forall2
import VisibleFacets.Proofs.Facet.Falling

/-!
# What scaling keeps

A larger visible share keeps every entry that a smaller one keeps, at its place in the list and with
no lower count. In a list of falling counts what is kept stands first: `rescale_monotone`.
-/

namespace VisibleFacets

theorem sublistForall₂_filterMap {α β δ : Type} {f : α → Option β} {g : α → Option δ}
    {r : β → δ → Prop}
    (above : ∀ item low, f item = some low → ∃ high, g item = some high ∧ r low high)
    (items : List α) : List.SublistForall₂ r (items.filterMap f) (items.filterMap g) := by
  induction items with
  | nil => exact .nil
  | cons item items ih =>
    cases lower : f item with
    | some low =>
      obtain ⟨high, upper, le⟩ := above item low lower
      rw [List.filterMap_cons_some lower, List.filterMap_cons_some upper]
      exact .cons le ih
    | none =>
      rw [List.filterMap_cons_none lower]
      cases upper : g item with
      | none => rwa [List.filterMap_cons_none upper]
      | some high =>
        rw [List.filterMap_cons_some upper]
        exact .cons_right ih

theorem Falling.rescale {entries : List Entry} (falling : Falling entries)
    (sampleSize accessible : Nat) : Falling (rescale sampleSize accessible entries) := by
  rw [rescale_eq_filterMap]
  apply List.Pairwise.filterMap _ _ falling
  intro first second fewer high kept low keptToo
  obtain ⟨raised, same, le⟩ := Entry.rescaled?_mono (Nat.le_refl _) fewer keptToo
  cases kept.symm.trans same
  exact le

/-- The entries that scaling keeps, each with its place in the list, counted from zero. -/
def survivors (sampleSize accessible : Nat) (entries : List Entry) : List (Nat × Entry) :=
  entries.zipIdx.filterMap fun placed =>
    (placed.1.rescaled? sampleSize accessible).map fun scaled => (placed.2, scaled)

/-- Scaling gives these entries, they stood at these places, and what stood elsewhere comes to
nothing. -/
structure KeptAt (sampleSize accessible : Nat) (entries : List Entry) (kept : List (Nat × Entry)) :
    Prop where
  scaled : kept.map Prod.snd = rescale sampleSize accessible entries
  ascending : kept.Pairwise fun first second => first.1 < second.1
  stood : ∀ place scaled, (place, scaled) ∈ kept → ∃ entry, entries[place]? = some entry ∧
    scaled.label = entry.label ∧ scaled.count =
      if sampleSize ≤ accessible then entry.count else entry.count * accessible / sampleSize
  dropped : ∀ place entry, entries[place]? = some entry → place ∉ kept.map Prod.fst →
    accessible < sampleSize ∧ entry.count * accessible / sampleSize = 0

section Places

variable {sampleSize accessible : Nat} {entries : List Entry}

theorem mem_survivors {place : Nat} {scaled : Entry} :
    (place, scaled) ∈ survivors sampleSize accessible entries ↔
      ∃ entry, entries[place]? = some entry ∧
        entry.rescaled? sampleSize accessible = some scaled := by
  simp [survivors, List.mem_zipIdx_iff_getElem?]

theorem Entry.count_of_rescaled? {entry scaled : Entry}
    (kept : entry.rescaled? sampleSize accessible = some scaled) :
    scaled.label = entry.label ∧ scaled.count =
      if sampleSize ≤ accessible then entry.count
      else entry.count * accessible / sampleSize := by
  rw [rescaled?] at kept
  split at kept
  case isTrue full =>
    cases kept
    exact ⟨rfl, (if_pos full).symm⟩
  case isFalse below =>
    split at kept
    case isTrue =>
      cases kept
      exact ⟨rfl, (if_neg below).symm⟩
    case isFalse => cases kept

theorem Entry.lost_of_rescaled? {entry : Entry}
    (lost : entry.rescaled? sampleSize accessible = none) :
    accessible < sampleSize ∧ entry.count * accessible / sampleSize = 0 := by
  rw [rescaled?] at lost
  split at lost
  case isTrue => cases lost
  case isFalse below =>
    split at lost
    case isTrue => cases lost
    case isFalse few => exact ⟨Nat.not_le.mp below, Nat.div_eq_of_lt (Nat.not_le.mp few)⟩

theorem keptAt_survivors (sampleSize accessible : Nat) (entries : List Entry) :
    KeptAt sampleSize accessible entries (survivors sampleSize accessible entries) where
  scaled := calc
    _ = entries.zipIdx.filterMap (Entry.rescaled? sampleSize accessible ∘ Prod.fst) := by
      simp [survivors, List.map_filterMap, Function.comp_def]
    _ = _ := by rw [← List.filterMap_map, List.zipIdx_map_fst, rescale_eq_filterMap]
  ascending := by
    have places : entries.zipIdx.Pairwise fun first second => first.2 < second.2 := by
      rw [← List.pairwise_map, List.zipIdx_map_snd]
      exact List.pairwise_lt_range'
    apply List.Pairwise.filterMap _ _ places
    intro first second before low kept high keptToo
    obtain ⟨_, -, rfl⟩ := Option.map_eq_some_iff.mp kept
    obtain ⟨_, -, rfl⟩ := Option.map_eq_some_iff.mp keptToo
    exact before
  stood place scaled kept := by
    obtain ⟨entry, present, kept⟩ := mem_survivors.mp kept
    exact ⟨entry, present, Entry.count_of_rescaled? kept⟩
  dropped place entry present missing := by
    cases kept : entry.rescaled? sampleSize accessible with
    | none => exact Entry.lost_of_rescaled? kept
    | some scaled =>
      have listed := mem_survivors.mpr ⟨entry, present, kept⟩
      exact absurd (List.mem_map_of_mem listed) missing

theorem Falling.getElem?_survivors (falling : Falling entries) (i : Nat) :
    (survivors sampleSize accessible entries)[i]? =
      (entries[i]?.bind (Entry.rescaled? sampleSize accessible)).map fun scaled => (i, scaled) := by
  have kept : (entries.zipIdx.map Prod.fst).Pairwise fun first second =>
      (second.rescaled? sampleSize accessible).isSome →
        (first.rescaled? sampleSize accessible).isSome := by
    rw [List.zipIdx_map_fst]
    exact falling.kept_before sampleSize accessible
  rw [survivors, getElem?_filterMap_of_prefix, List.getElem?_zipIdx, Nat.zero_add]
  · cases entries[i]? <;> rfl
  · simpa using List.pairwise_map.mp kept

theorem Falling.survivors_prefix (falling : Falling entries) :
    (survivors sampleSize accessible entries).map Prod.fst =
      List.range (survivors sampleSize accessible entries).length := by
  apply List.ext_getElem (by simp)
  intro i inside _
  rw [List.length_map] at inside
  have kept := List.getElem?_eq_getElem inside
  rw [falling.getElem?_survivors] at kept
  obtain ⟨_, -, same⟩ := Option.map_eq_some_iff.mp kept
  rw [List.getElem_map, List.getElem_range, ← same]

end Places

/-- With a larger share visible, what was kept is kept at the same places and counts no less. In a
list of falling counts the counts still fall, and what is kept stood before what is not. -/
theorem rescale_monotone {few many : Nat} (shares : few ≤ many) (sampleSize : Nat)
    (entries : List Entry) :
    let kept := survivors sampleSize few entries
    let grown := survivors sampleSize many entries
    KeptAt sampleSize few entries kept ∧ KeptAt sampleSize many entries grown ∧
    List.SublistForall₂ (fun low high => low.1 = high.1 ∧ low.2.label = high.2.label ∧
      low.2.count ≤ high.2.count) kept grown ∧
    (Falling entries → Falling (rescale sampleSize few entries) ∧
      kept.map Prod.fst = List.range kept.length) := by
  refine ⟨keptAt_survivors _ _ _, keptAt_survivors _ _ _, ?_, fun falling => ?_⟩
  · apply sublistForall₂_filterMap
    rintro ⟨entry, place⟩ _ placed
    obtain ⟨low, kept, rfl⟩ := Option.map_eq_some_iff.mp placed
    obtain ⟨high, grown, counts⟩ := Entry.rescaled?_mono shares (Nat.le_refl entry.count) kept
    refine ⟨(place, high), Option.map_eq_some_iff.mpr ⟨high, grown, rfl⟩, rfl, ?_, counts⟩
    rw [(Entry.count_of_rescaled? kept).1, (Entry.count_of_rescaled? grown).1]
  · exact ⟨falling.rescale sampleSize few, falling.survivors_prefix⟩

/-- A label comes twice, and a count of zero comes back when the whole sample is visible. -/
theorem rescale_monotone_back :
    let entries : List Entry := [⟨"a", 9⟩, ⟨"b", 5⟩, ⟨"a", 1⟩, ⟨"c", 0⟩]
    (survivors 10 5 entries).map Prod.snd = rescale 10 5 entries ∧
    (survivors 10 10 entries).map Prod.snd = rescale 10 10 entries ∧
    survivors 10 5 entries = [(0, ⟨"a", 4⟩), (1, ⟨"b", 2⟩)] ∧
    (survivors 10 5 entries).map Prod.fst = List.range 2 ∧
    (survivors 10 10 entries).map Prod.fst = [0, 1, 2, 3] ∧
    List.SublistForall₂ (fun low high => low.1 = high.1 ∧ low.2.label = high.2.label ∧
      low.2.count ≤ high.2.count) (survivors 10 5 entries) (survivors 10 10 entries) := by
  intro entries
  obtain ⟨kept, grown, sublist, falling⟩ := rescale_monotone (by decide : 5 ≤ 10) 10 entries
  have falls : Falling entries := by simp [Falling, entries]
  exact ⟨kept.scaled, grown.scaled, by decide, (falling falls).2, by decide, sublist⟩

end VisibleFacets
