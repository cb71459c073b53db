import VisibleFacets.Proofs.Facet.Ranking

/-!
# The leading entries of a map

`Leaders` says which entries of a map lead it, in terms of what the map reads. There is one such
list (`Leaders.unique`), and it is found whatever the order in which the map lists its entries:
`topEntries_leaders`.
-/

namespace VisibleFacets

/-- The entries of the map in some order. -/
structure Enumerates (counts : Dict Nat) (listing : List Entry) : Prop where
  distinct : (listing.map Entry.label).Nodup
  listed : ∀ entry, entry ∈ listing ↔ counts.get? entry.label = some entry.count

theorem enumerates_entriesOf (counts : Dict Nat) : Enumerates counts (entriesOf counts) where
  distinct := List.pairwise_map.mpr (nodup_labels_entriesOf counts)
  listed _ := mem_entriesOf

section Enumeration

variable {counts : Dict Nat} {listing : List Entry} (enumerates : Enumerates counts listing)
include enumerates

theorem Enumerates.length_eq : listing.length = counts.size := by
  have distinct := List.Nodup.of_map Entry.label enumerates.distinct
  have whole := enumerates_entriesOf counts
  have same : listing.Perm (entriesOf counts) :=
    (List.perm_ext_iff_of_nodup distinct (List.Nodup.of_map Entry.label whole.distinct)).mpr
      fun entry => (enumerates.listed entry).trans (whole.listed entry).symm
  rw [same.length_eq, entriesOf, List.length_map, Dict.size]

theorem Enumerates.sorted : Enumerates counts (listing.mergeSort Entry.precedes) where
  distinct :=
    ((List.mergeSort_perm listing Entry.precedes).map Entry.label).nodup_iff.mpr enumerates.distinct
  listed entry := by rw [List.mem_mergeSort, enumerates.listed]

theorem Enumerates.ordered : (listing.mergeSort Entry.precedes).Pairwise Entry.Above :=
  pairwise_above_mergeSort (List.pairwise_map.mp enumerates.distinct)

end Enumeration

/-- As many entries of the map as the limit allows, in the order of a ranking, and above all others
of the map. -/
structure Leaders (counts : Dict Nat) (limit : Nat) (leading : List Entry) : Prop where
  length : leading.length = min limit counts.size
  own : ∀ entry ∈ leading, counts.get? entry.label = some entry.count
  distinct : (leading.map Entry.label).Nodup
  ordered : leading.Pairwise Entry.Above
  ahead : ∀ entry ∈ leading, ∀ other, counts.get? other.label = some other.count →
    other ∉ leading → entry.Above other

theorem Leaders.eq_take {counts : Dict Nat} {limit : Nat} {leading ranked : List Entry}
    (leaders : Leaders counts limit leading) (enumerates : Enumerates counts ranked)
    (ordered : ranked.Pairwise Entry.Above) : leading = ranked.take leading.length := by
  -- With the entries that are left out, in their order, the leaders are the whole ranking.
  have completed : leading ++ ranked.filter (· ∉ leading) = ranked := by
    refine List.Pairwise.eq_of_mem_iff (List.pairwise_append.mpr ⟨leaders.ordered,
      ordered.sublist List.filter_sublist, fun entry leads other left => ?_⟩) ordered ?_
    · obtain ⟨member, out⟩ := List.mem_filter.mp left
      have own := (enumerates.listed other).mp member
      exact leaders.ahead entry leads other own (by simpa using out)
    · intro entry
      have own : entry ∈ leading → entry ∈ ranked := fun leads =>
        (enumerates.listed entry).mpr (leaders.own entry leads)
      by_cases leads : entry ∈ leading <;> simp [leads, own]
  conv_rhs => rw [← completed, List.take_left]

theorem Leaders.unique {counts : Dict Nat} {limit : Nat} {first second : List Entry}
    (left : Leaders counts limit first) (right : Leaders counts limit second) : first = second := by
  have whole := enumerates_entriesOf counts
  rw [left.eq_take whole.sorted whole.ordered, right.eq_take whole.sorted whole.ordered,
    left.length, right.length]

theorem Enumerates.leaders {counts : Dict Nat} {listing : List Entry}
    (enumerates : Enumerates counts listing) (limit : Nat) :
    Leaders counts limit (topEntries limit listing) where
  length := by rw [topEntries, List.length_take, List.length_mergeSort, enumerates.length_eq]
  own entry leads := (enumerates.sorted.listed entry).mp (List.mem_of_mem_take leads)
  distinct := enumerates.sorted.distinct.sublist ((List.take_sublist limit _).map Entry.label)
  ordered := enumerates.ordered.sublist (List.take_sublist limit _)
  ahead entry leads other own out := by
    have member := (enumerates.sorted.listed other).mpr own
    have ordered := enumerates.ordered
    rw [← List.take_append_drop limit (listing.mergeSort Entry.precedes)] at member ordered
    have behind := (List.mem_append.mp member).resolve_left out
    exact (List.pairwise_append.mp ordered).2.2 entry leads other behind

/-- Whatever the order of the listing and the limit. -/
theorem topEntries_leaders {counts : Dict Nat} {listing : List Entry}
    (enumerates : Enumerates counts listing) (limit : Nat) :
    Leaders counts limit (topEntries limit listing) ∧
    (∀ other, Enumerates counts other → topEntries limit other = topEntries limit listing) ∧
    ∀ wide, limit ≤ wide → topEntries limit listing = (topEntries wide listing).take limit := by
  refine ⟨enumerates.leaders limit, fun other again => ?_, fun wide narrower => ?_⟩
  · exact (again.leaders limit).unique (enumerates.leaders limit)
  · rw [topEntries, topEntries, List.take_take, Nat.min_eq_left narrower]

/-- Two of three entries lead, and the cut falls between equal counts. -/
theorem topEntries_leaders_tied :
    let counts : Dict Nat := .ofList [("y", 1), ("x", 1), ("z", 2)]
    let listing : List Entry := [⟨"y", 1⟩, ⟨"z", 2⟩, ⟨"x", 1⟩]
    Enumerates counts listing ∧ Leaders counts 2 (topEntries 2 listing) ∧
    topEntries 2 listing = [⟨"z", 2⟩, ⟨"x", 1⟩] ∧
    topEntries 1 listing = (topEntries 2 listing).take 1 := by
  intro counts listing
  have enumerates {entries : List Entry} (same : entries.Perm (entriesOf counts))
      (distinct : (entries.map Entry.label).Nodup) : Enumerates counts entries :=
    ⟨distinct, fun entry => same.mem_iff.trans mem_entriesOf⟩
  have listed : Enumerates counts listing := enumerates (by decide) (by decide)
  have ranked : Enumerates counts [⟨"z", 2⟩, ⟨"x", 1⟩, ⟨"y", 1⟩] :=
    enumerates (by decide) (by decide)
  obtain ⟨leaders, alike, -⟩ := topEntries_leaders listed 2
  refine ⟨listed, leaders, ?_, (topEntries_leaders listed 1).2.2 2 (by decide)⟩
  rw [← alike _ ranked, topEntries, List.mergeSort_of_pairwise (by decide)]
  rfl

end VisibleFacets
