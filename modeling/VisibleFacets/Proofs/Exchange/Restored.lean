import VisibleFacets.Exchange.Facets
import VisibleFacets.Proofs.Json.Layout

/-!
# Values read back from what was written

Tables, snapshots and queries are the same again when they are read from their JSON text, in either
layout: `written_restored`.
-/

namespace VisibleFacets

open Json

def Entry.Fits (entry : Entry) : Prop := entry.count ≤ Text.maxWord

def FacetTable.Fits (table : FacetTable) : Prop :=
  ∀ entry ∈ table.entries, ∀ listed ∈ entry.2, listed.Fits

structure Snapshot.Fits (snapshot : Snapshot) : Prop where
  facets : FacetTable.Fits snapshot.facets
  totalDocuments : snapshot.totalDocuments ≤ Text.maxWord
  numFacets : snapshot.numFacets ≤ Text.maxWord

theorem Entry.carries {entry : Entry} (fits : entry.Fits) :
    Carries Entry.read 1 entry.toJson entry := by
  refine carries_record (by simp) fun layout => ?_
  obtain ⟨label, readsLabel, foundLabel⟩ := carries_string entry.label layout
  obtain ⟨count, readsCount, foundCount⟩ := carries_natural fits layout
  refine ⟨[label, count], .cons readsLabel (.cons readsCount .nil), fun depth raw room fields => ?_⟩
  simp only [List.map_cons, List.map_nil] at fields
  simp [Entry.read, fields, Reading.required, foundLabel depth, foundCount depth]

theorem FacetTable.carries {table : FacetTable} (fits : FacetTable.Fits table) :
    Carries FacetTable.read 3 (FacetTable.toJson table) table :=
  carries_ofDict fun entry member =>
    carries_list fun listed present => Entry.carries (fits entry member listed present)

theorem Snapshot.carries {snapshot : Snapshot} (fits : snapshot.Fits) :
    Carries Snapshot.read 4 snapshot.toJson snapshot := by
  refine carries_record (by simp) fun layout => ?_
  obtain ⟨facets, readsFacets, foundFacets⟩ := FacetTable.carries fits.facets layout
  obtain ⟨total, readsTotal, foundTotal⟩ := carries_natural fits.totalDocuments layout
  obtain ⟨limit, readsLimit, foundLimit⟩ := carries_natural fits.numFacets layout
  refine ⟨[facets, total, limit], .cons readsFacets (.cons readsTotal (.cons readsLimit .nil)), ?_⟩
  intro depth raw room fields
  simp only [List.map_cons, List.map_nil] at fields
  simp [Snapshot.read, fields, Reading.required, foundFacets depth room, foundTotal depth,
    foundLimit depth]

theorem Query.carries (query : Query) : Carries Query.read 2 query.toJson query := by
  have names : Carries (.list .string) 1 (.ofStrings query.facets) query.facets :=
    carries_list fun facet _ => carries_string facet
  refine carries_record (by simp) fun layout => ?_
  obtain ⟨text, readsText, foundText⟩ := carries_string query.text layout
  obtain ⟨facets, readsFacets, foundFacets⟩ := names layout
  refine ⟨[text, facets], .cons readsText (.cons readsFacets .nil), fun depth raw room fields => ?_⟩
  simp only [List.map_cons, List.map_nil] at fields
  simp [Query.read, fields, Reading.required, Reading.optional, foundText depth,
    foundFacets depth room]

/-- In either layout, at any level of indentation, and whatever the names, labels and texts hold. -/
theorem written_restored (layout : Layout) :
    (∀ table : FacetTable, FacetTable.Fits table →
      Reading.run FacetTable.read (layout.write (FacetTable.toJson table)) = some table) ∧
    (∀ snapshot : Snapshot, snapshot.Fits →
      Reading.run Snapshot.read (layout.write snapshot.toJson) = some snapshot) ∧
    ∀ query : Query, Reading.run Query.read (layout.write query.toJson) = some query :=
  ⟨fun _ fits => (FacetTable.carries fits).run (by decide) layout,
    fun _ fits => (Snapshot.carries fits).run (by decide) layout,
    fun query => query.carries.run (by decide) layout⟩

/-- Quotes, escapes and control characters in names and labels, and the largest of all counts. -/
theorem written_restored_escaped :
    let entries : List Entry := [⟨"\x22\\/\x00", Text.maxWord⟩, ⟨"é\n\x1b𝄞", 0⟩]
    let table : FacetTable := .ofList [("\r\t\x7f", entries)]
    let snapshot : Snapshot := ⟨table, Text.maxWord, 0⟩
    let query : Query := ⟨"\x22", ["", "\x0b"]⟩
    FacetTable.Fits table ∧ snapshot.Fits ∧
    ∀ layout : Layout,
      Reading.run FacetTable.read (layout.write (FacetTable.toJson table)) = some table ∧
      Reading.run Snapshot.read (layout.write snapshot.toJson) = some snapshot ∧
      Reading.run Query.read (layout.write query.toJson) = some query := by
  intro entries table snapshot query
  have fits : FacetTable.Fits table := by
    intro entry member listed present
    obtain rfl : entry = ("\r\t\x7f", entries) := List.mem_singleton.mp member
    have all : ∀ listed ∈ entries, listed.count ≤ Text.maxWord := by decide
    exact all listed present
  have fitsToo : snapshot.Fits := ⟨fits, by decide, by decide⟩
  refine ⟨fits, fitsToo, fun layout => ?_⟩
  obtain ⟨tables, snapshots, queries⟩ := written_restored layout
  exact ⟨tables table fits, snapshots snapshot fitsToo, queries query⟩

end VisibleFacets
