import Mathlib.Data.List.Dedup
import VisibleFacets.Proofs.Facet.Carriers
import VisibleFacets.Proofs.Search.Narrowing

/-!
# From a label to its documents

A query narrowed by a facet and one of its labels matches the documents that carry the label, so a
table that lists all labels and the matches of narrowed queries say the same, but for labels that a
document carries more than once: `Corpus.narrowed_counts`.
-/

namespace VisibleFacets

variable {query : Query} {terms : List Term} {facet label : String}

theorem Ranks.labels_perm {labels : List String} {ranked : List Entry}
    (ranks : Ranks labels ranked) : (ranked.map Entry.label).Perm labels.dedup := by
  apply (List.perm_ext_iff_of_nodup ranks.nodup_labels labels.nodup_dedup).mpr
  intro label
  rw [List.mem_map, List.mem_dedup]
  constructor
  · rintro ⟨entry, member, rfl⟩
    exact ((ranks.listed entry).mp member).1
  · intro occurs
    exact ⟨⟨label, labels.count label⟩, (ranks.listed _).mpr ⟨occurs, rfl⟩, rfl⟩

/-- Where the limit leaves room for every label the ranking is whole. -/
theorem topEntries_ranks {labels : List String} {limit : Nat}
    (room : labels.dedup.length ≤ limit) :
    Ranks labels (topEntries limit (entriesOf (tally labels))) := by
  have ranks := ranks_mergeSort labels
  have length := ranks.labels_perm.length_eq
  rw [List.length_map] at length
  rwa [topEntries, List.take_of_length_le (by omega)]

namespace Corpus

theorem holds_of_ne_id (other : facet ≠ "id") (document : Document) :
    Term.holds ⟨facet, label⟩ document = decide (label ∈ labels document.fields facet) := by
  rw [Term.holds, if_neg other]

theorem carriers_hits [Memory] (corpus : Corpus) (terms : List Term) (facet label : String) :
    carriers (corpus.hits terms) facet label = ((corpus.selected terms).filter fun document =>
      label ∈ labels document.fields facet).length := by
  rw [carriers, hits, List.countP_map, List.countP_eq_length_filter]
  rfl

/-- A query narrowed by a label matches the documents among its matches that carry the label. A table
of the query with room for all labels lists this one if there are any, and counts it no lower than
their number, and as this number if no match has the label twice. -/
theorem narrowed_counts [Memory] {corpus : Corpus} (steady : corpus.failAfterPages = none)
    (parsed : Query.terms query.text.toList = .ok terms) (named : facet ∈ query.facets)
    (plain : Term.Plain ⟨facet, label⟩) (other : facet ≠ "id") (usage : Usage) :
    let carrying := (corpus.selected terms).filter fun document =>
      label ∈ labels document.fields facet
    (∀ batchSize offset,
      (corpus.backend.fetchPage (query.narrowed ⟨facet, label⟩) batchSize offset usage).1 =
        .ok ⟨((carrying.drop offset).take batchSize).map Document.toHit, carrying.length⟩) ∧
    ∀ limit, ((corpus.selected terms).flatMap fun document =>
        labels document.fields facet).dedup.length ≤ limit →
      ∃ table ranked, (corpus.backend.aggregate query limit usage).1 = .ok table ∧
        table.get? facet = some ranked ∧ (ranked.map Entry.label).Nodup ∧
        (label ∈ ranked.map Entry.label ↔ 0 < carrying.length) ∧
        ∀ entry ∈ ranked, entry.label = label →
          carrying.length ≤ entry.count ∧
          ((∀ document ∈ corpus.selected terms,
              (labels document.fields facet).count label ≤ 1) →
            entry.count = carrying.length) := by
  intro carrying
  have carried : carriers (corpus.hits terms) facet label = carrying.length :=
    corpus.carriers_hits terms facet label
  constructor
  · intro batchSize offset
    have found : corpus.selected (terms ++ [⟨facet, label⟩]) = carrying := by
      rw [selected_concat]
      exact List.filter_congr fun document _ => holds_of_ne_id other document
    rw [fetchPage_eq steady (Query.terms_narrowed plain parsed), hits, found, List.map_take,
      List.map_drop, List.length_map]
  · intro limit room
    have listing : (corpus.selected terms).flatMap (fun document => labels document.fields facet) =
        labelsOf (corpus.hits terms) facet := by
      rw [labelsOf, hits, List.flatMap_map]
      rfl
    rw [listing] at room
    have ranks := topEntries_ranks room
    refine ⟨_, _, corpus.table_eq parsed limit, ?_, ranks.nodup_labels, ?_, ?_⟩
    · rw [get?_countFacets, if_pos named]
    · rw [ranks.labels_perm.mem_iff, List.mem_dedup, ← carriers_pos_iff, carried]
    · rintro entry member rfl
      have count := ((ranks.listed entry).mp member).2
      rw [count, ← carried]
      refine ⟨carriers_le_count _ _ _, fun once => ?_⟩
      apply count_eq_carriers_iff.mpr
      intro hit member
      obtain ⟨document, selected, rfl⟩ := List.mem_map.mp member
      exact once document selected

/-- The query has odd blanks, the label has a colon, and one document carries it twice. -/
theorem narrowed_counts_twice :
    let corpus : Corpus := { documents :=
      [⟨"a", .ofList [("kind", .array [.string "x:1", .string "x:1"]), ("year", .integer 7)], []⟩,
        ⟨"b", .ofList [("kind", .string "x:1")], []⟩] }
    let query : Query := ⟨" year:7\t ", ["kind"]⟩
    (∃ page, (corpus.backend.fetchPage (query.narrowed ⟨"kind", "x:1"⟩) 10 0 {}).1 = .ok page ∧
      page.totalHits = 1) ∧
    ∃ table ranked, (corpus.backend.aggregate query 9 {}).1 = .ok table ∧
      table.get? "kind" = some ranked ∧ "x:1" ∈ ranked.map Entry.label ∧
      ∀ entry ∈ ranked, entry.label = "x:1" → 1 ≤ entry.count := by
  intro corpus query
  have steady : corpus.failAfterPages = none := rfl
  have parsed : Query.terms query.text.toList = .ok [⟨"year", "7"⟩] := by decide
  have named : "kind" ∈ query.facets := List.mem_cons_self
  have plain : Term.Plain ⟨"kind", "x:1"⟩ :=
    ⟨by decide, by decide, by decide, by simp [Text.isBlank, Text.inRanges, Text.blankRanges],
      by simp [Text.isBlank, Text.inRanges, Text.blankRanges]⟩
  obtain ⟨pages, tables⟩ := narrowed_counts steady parsed named plain (by decide) {}
  obtain ⟨table, ranked, aggregated, read, -, listed, counts⟩ := tables 9 (by decide)
  refine ⟨⟨_, pages 10 0, by decide⟩, table, ranked, aggregated, read, listed.mpr (by decide), ?_⟩
  intro entry member same
  exact (counts entry member same).1

end Corpus

end VisibleFacets
