import VisibleFacets.Facet.Table
import VisibleFacets.Proofs.Dict
import VisibleFacets.Proofs.Text.Bytes

/-!
# The ranking of labels

`Ranks` and `Tabulates` say what a ranking and a table of rankings hold, in terms of the labels
alone. Both are determined by it (`Ranks.unique`, `Tabulates.unique`) whatever the order of the labels
(`Tabulates.of_perm`), and `countFacets` makes the table (`countFacets_tabulates`).
-/

namespace VisibleFacets

/-! ## Tallies -/

theorem tally_concat (labels : List String) (label : String) :
    tally (labels ++ [label]) =
      (tally labels).insert label (((tally labels).get? label).getD 0 + 1) := by
  simp [tally]

theorem get?_tally (labels : List String) (wanted : String) :
    (tally labels).get? wanted =
      if wanted ∈ labels then some (labels.count wanted) else none := by
  induction labels using List.reverseRecOn with
  | nil => rfl
  | append_singleton labels label ih =>
    rw [tally_concat, Dict.get?_insert]
    by_cases same : wanted = label
    · subst same
      rw [if_pos rfl, if_pos (by simp), ih]
      by_cases member : wanted ∈ labels
      · simp [member]
      · simp [member, List.count_eq_zero_of_not_mem member]
    · have apart : label ≠ wanted := fun equal => same equal.symm
      simp [same, ih, List.count_append, apart]

theorem mem_entriesOf {counts : Dict Nat} {entry : Entry} :
    entry ∈ entriesOf counts ↔ counts.get? entry.label = some entry.count := by
  rw [Dict.get?_eq_some_iff, entriesOf, List.mem_map]
  constructor
  · rintro ⟨listed, member, rfl⟩
    exact member
  · intro member
    exact ⟨(entry.label, entry.count), member, rfl⟩

theorem mem_entriesOf_tally {labels : List String} {entry : Entry} :
    entry ∈ entriesOf (tally labels) ↔
      entry.label ∈ labels ∧ entry.count = labels.count entry.label := by
  rw [mem_entriesOf, get?_tally]
  by_cases member : entry.label ∈ labels
  · simp [member, eq_comm]
  · simp [member]

theorem nodup_labels_entriesOf (counts : Dict Nat) :
    (entriesOf counts).Pairwise fun first second => first.label ≠ second.label :=
  List.pairwise_map.mpr (counts.ascending.imp fun less => String.ne_of_lt less)

/-! ## Rankings -/

/-- The order of a ranking: by falling count, and among equal counts by rising bytes. -/
def Entry.Above (first second : Entry) : Prop :=
  second.count < first.count ∨
    first.count = second.count ∧ Text.utf8 first.label < Text.utf8 second.label

instance : Std.Irrefl Entry.Above :=
  ⟨fun _ above => above.elim (Nat.lt_irrefl _) fun ⟨_, less⟩ => List.lt_irrefl _ less⟩

instance : Std.Antisymm Entry.Above where
  antisymm first second above below := by
    exfalso
    rcases above with more | ⟨_, less⟩ <;> rcases below with fewer | ⟨_, greater⟩
    · omega
    · omega
    · omega
    · exact List.lt_asymm less greater

theorem Entry.precedes_total (first second : Entry) :
    (first.precedes second || second.precedes first) = true := by
  simp only [precedes, Bool.or_eq_true, Bool.and_eq_true, decide_eq_true_eq]
  rcases Nat.lt_trichotomy first.count second.count with fewer | even | more
  · exact .inr (.inl fewer)
  · exact (String.le_total first.label second.label).imp (fun low => .inr ⟨even.symm, low⟩)
      fun low => .inr ⟨even, low⟩
  · exact .inl (.inl more)

theorem Entry.precedes_trans (first second third : Entry) (before : first.precedes second = true)
    (after : second.precedes third = true) : first.precedes third = true := by
  simp only [precedes, Bool.or_eq_true, Bool.and_eq_true, decide_eq_true_eq] at *
  rcases before with more | ⟨even, low⟩ <;> rcases after with further | ⟨evener, high⟩
  · exact .inl (Nat.lt_trans further more)
  · exact .inl (evener ▸ more)
  · exact .inl (even ▸ further)
  · exact .inr ⟨evener.trans even, String.le_trans low high⟩

theorem Entry.above_of_precedes {first second : Entry} (before : first.precedes second = true)
    (apart : first.label ≠ second.label) : first.Above second := by
  simp only [precedes, Bool.or_eq_true, Bool.and_eq_true, decide_eq_true_eq] at before
  rcases before with more | ⟨even, low⟩
  · exact .inl more
  · refine .inr ⟨even.symm, Text.utf8_lt_of_lt ?_⟩
    exact name_lt_of_not_lt_of_ne (String.not_lt.mpr low) apart.symm

theorem pairwise_above_mergeSort {entries : List Entry}
    (distinct : entries.Pairwise fun first second => first.label ≠ second.label) :
    (entries.mergeSort Entry.precedes).Pairwise Entry.Above := by
  have sorted := List.pairwise_mergeSort Entry.precedes_trans Entry.precedes_total entries
  have apart := distinct.perm (List.mergeSort_perm entries Entry.precedes).symm
    fun different => different.symm
  exact sorted.imp₂ (fun _ _ before different => Entry.above_of_precedes before different) apart

/-- The labels in order, each with the number of its occurrences. -/
structure Ranks (labels : List String) (ranked : List Entry) : Prop where
  ordered : ranked.Pairwise Entry.Above
  listed : ∀ entry, entry ∈ ranked ↔
    entry.label ∈ labels ∧ entry.count = labels.count entry.label

theorem Ranks.unique {labels : List String} {first second : List Entry}
    (left : Ranks labels first) (right : Ranks labels second) : first = second :=
  left.ordered.eq_of_mem_iff right.ordered fun entry =>
    (left.listed entry).trans (right.listed entry).symm

theorem Ranks.of_perm {labels others : List String} {ranked : List Entry}
    (ranks : Ranks labels ranked) (same : labels.Perm others) : Ranks others ranked where
  ordered := ranks.ordered
  listed entry := by rw [ranks.listed, same.mem_iff, same.count_eq]

theorem ranks_mergeSort (labels : List String) :
    Ranks labels ((entriesOf (tally labels)).mergeSort Entry.precedes) where
  ordered := pairwise_above_mergeSort (nodup_labels_entriesOf (tally labels))
  listed entry := by rw [List.mem_mergeSort, mem_entriesOf_tally]

/-! ## Tables -/

/-- The table has one entry for each of these facets, with the first labels of its ranking, and no
other entry. -/
structure Tabulates (labelsUnder : String → List String) (facets : List String) (limit : Nat)
    (table : FacetTable) : Prop where
  distinct : table.keys.Nodup
  named : ∀ facet, facet ∈ table.keys ↔ facet ∈ facets
  ranked : ∀ facet ∈ facets, ∃ ranked, Ranks (labelsUnder facet) ranked ∧
    table.get? facet = some (ranked.take limit)

variable {labelsUnder : String → List String} {facets : List String} {limit : Nat}

theorem Tabulates.unique {first second : FacetTable}
    (left : Tabulates labelsUnder facets limit first)
    (right : Tabulates labelsUnder facets limit second) : first = second := by
  apply Dict.ext_get?
  intro facet
  by_cases member : facet ∈ facets
  · obtain ⟨_, leftRanks, leftRead⟩ := left.ranked facet member
    obtain ⟨_, rightRanks, rightRead⟩ := right.ranked facet member
    rw [leftRead, rightRead, leftRanks.unique rightRanks]
  · have missing {table : FacetTable} (tabulates : Tabulates labelsUnder facets limit table) :
        table.get? facet = none := by
      apply Option.eq_none_iff_forall_ne_some.mpr
      intro ranked read
      apply member
      exact (tabulates.named facet).mp (Dict.mem_keys_iff.mpr ⟨ranked, read⟩)
    rw [missing left, missing right]

theorem Tabulates.of_perm {others : String → List String} {table : FacetTable}
    (tabulates : Tabulates labelsUnder facets limit table)
    (same : ∀ facet, (labelsUnder facet).Perm (others facet)) :
    Tabulates others facets limit table where
  distinct := tabulates.distinct
  named := tabulates.named
  ranked facet member := by
    obtain ⟨ranked, ranks, read⟩ := tabulates.ranked facet member
    exact ⟨ranked, ranks.of_perm (same facet), read⟩

theorem get?_countFacets (labelsUnder : String → List String) (facets : List String) (limit : Nat)
    (facet : String) :
    (countFacets labelsUnder facets limit).get? facet =
      if facet ∈ facets then some (topEntries limit (entriesOf (tally (labelsUnder facet))))
      else none :=
  Dict.get?_ofList_map _ facets facet

theorem countFacets_tabulates (labelsUnder : String → List String) (facets : List String)
    (limit : Nat) : Tabulates labelsUnder facets limit (countFacets labelsUnder facets limit) := by
  constructor
  case distinct => exact Dict.nodup_keys _
  case named =>
    intro facet
    rw [Dict.mem_keys_iff, get?_countFacets]
    by_cases member : facet ∈ facets <;> simp [member]
  case ranked =>
    intro facet member
    exact ⟨_, ranks_mergeSort (labelsUnder facet), by rw [get?_countFacets, if_pos member]; rfl⟩

end VisibleFacets
