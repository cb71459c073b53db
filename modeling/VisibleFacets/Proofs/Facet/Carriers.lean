import VisibleFacets.Proofs.Facet.Limit
import VisibleFacets.Proofs.Facet.Secrecy

/-!
# Labels and the documents that carry them

A count is the number of occurrences of its label. It is never below the number of documents that
carry the label (`carriers_le_count`), and is this number just where none of them carries it twice
(`count_eq_carriers_iff`).
-/

namespace VisibleFacets

variable {τ : Type} {hits : List Hit} {facet label : String}

/-- The number of hits that carry a label. -/
def carriers (hits : List Hit) (facet label : String) : Nat :=
  hits.countP fun hit => label ∈ labels hit.fields facet

theorem carriers_cons (hit : Hit) (hits : List Hit) (facet label : String) :
    carriers (hit :: hits) facet label =
      carriers hits facet label + if label ∈ labels hit.fields facet then 1 else 0 := by
  simp [carriers, List.countP_cons]

theorem count_labelsOf_cons (hit : Hit) (hits : List Hit) (facet label : String) :
    (labelsOf (hit :: hits) facet).count label =
      (labelsOf hits facet).count label + (labels hit.fields facet).count label := by
  rw [labelsOf, List.flatMap_cons, List.count_append, Nat.add_comm, labelsOf]

theorem carriers_pos_iff : 0 < carriers hits facet label ↔ label ∈ labelsOf hits facet := by
  rw [carriers, List.countP_pos_iff, labelsOf, List.mem_flatMap]
  simp

theorem carriers_le_length (hits : List Hit) (facet label : String) :
    carriers hits facet label ≤ hits.length :=
  List.countP_le_length

theorem carriers_le_count (hits : List Hit) (facet label : String) :
    carriers hits facet label ≤ (labelsOf hits facet).count label := by
  induction hits with
  | nil => exact Nat.le_refl 0
  | cons hit hits ih =>
    rw [carriers_cons, count_labelsOf_cons]
    apply Nat.add_le_add ih
    split
    case isTrue carried => exact List.count_pos_iff.mpr carried
    case isFalse => exact Nat.zero_le _

theorem count_eq_carriers_iff :
    (labelsOf hits facet).count label = carriers hits facet label ↔
      ∀ hit ∈ hits, (labels hit.fields facet).count label ≤ 1 := by
  induction hits with
  | nil => simp [labelsOf, carriers]
  | cons hit hits ih =>
    have atLeast := carriers_le_count hits facet label
    rw [carriers_cons, count_labelsOf_cons, List.forall_mem_cons, ← ih]
    split
    case isTrue carried =>
      have occurs := List.count_pos_iff.mpr carried
      omega
    case isFalse missing =>
      rw [List.count_eq_zero_of_not_mem missing]
      omega

/-! ## The counts of a table -/

theorem count_of_mem_countFacets {labelsUnder : String → List String} {facets : List String}
    {limit : Nat} {ranked : List Entry} {entry : Entry}
    (read : (countFacets labelsUnder facets limit).get? facet = some ranked)
    (member : entry ∈ ranked) : entry.count = (labelsUnder facet).count entry.label := by
  rw [get?_countFacets] at read
  split at read
  case isFalse => cases read
  case isTrue =>
    obtain rfl := Option.some.inj read
    have listed := List.mem_of_mem_take member
    rw [List.mem_mergeSort, mem_entriesOf_tally] at listed
    exact listed.2

/-- Each count of the table is the number of occurrences of its label in these hits. No fewer hits
carry the label, and as many do just where none carries it twice; where none does, no count exceeds
the number of all matches. -/
def CountsOccurrences (hits : List Hit) (matched : Nat) (table : FacetTable) : Prop :=
  ∀ facet ranked, table.get? facet = some ranked → ∀ entry ∈ ranked,
    let once := ∀ hit ∈ hits, (labels hit.fields facet).count entry.label ≤ 1
    entry.count = (hits.map fun hit => (labels hit.fields facet).count entry.label).sum ∧
    carriers hits facet entry.label ≤ entry.count ∧
    (entry.count = carriers hits facet entry.label ↔ once) ∧
    (once → entry.count ≤ matched)

theorem countFacets_countsOccurrences {matched : Nat} (few : hits.length ≤ matched)
    (facets : List String) (limit : Nat) :
    CountsOccurrences hits matched (countFacets (labelsOf hits) facets limit) := by
  intro facet ranked read entry member once
  have count := count_of_mem_countFacets read member
  refine ⟨?_, ?_, ?_, fun holds => ?_⟩
  · rw [count, labelsOf, List.count_flatMap]
    rfl
  · rw [count]
    exact carriers_le_count hits facet entry.label
  · rw [count]
    exact count_eq_carriers_iff
  · rw [count, count_eq_carriers_iff.mpr holds]
    exact Nat.le_trans (carriers_le_length hits facet entry.label) few

section Corpus

variable {visibility : Visibility τ} {shown : Hit → Bool} {query : Query} {terms : List Term}

/-- Whether or not some of its fetches fail. -/
theorem Corpus.secureFacets_eq_of_ok [Memory] {corpus : Corpus}
    (parsed : Query.terms query.text.toList = .ok terms) (decides : visibility.Decides shown)
    {batchSize limit : Nat} {bench after : Bench Usage τ}
    {table : FacetTable}
    (counted : (secureFacets corpus.backend visibility query batchSize limit).run bench =
      some (.ok table, after)) :
    table = countFacets (labelsOf (corpus.visible terms shown)) query.facets limit := by
  have steady : corpus.steady.failAfterPages = none := rfl
  obtain ⟨last, recounted⟩ := corpus.steady_ok
    (fun corpus => secureFacets corpus.backend visibility query batchSize limit)
    (fun _ couples => secureFacets_couples couples visibility query batchSize limit)
    (secureFacets_ends steady visibility query batchSize limit) counted
  rcases Nat.eq_zero_or_pos batchSize with rfl | positive
  · rw [secureFacets, if_pos rfl] at recounted
    cases recounted
  · obtain ⟨checks, sifts⟩ := (decides.on (corpus.steady.hits terms)).sifts bench.checks
    obtain ⟨signals, run⟩ := Corpus.run_secureFacets steady parsed positive bench sifts limit
    rw [recounted] at run
    cases run
    rfl

/-- A count is a number of occurrences, and so a number of documents only where no document has the
label twice. -/
theorem counts_occurrences [Memory] {corpus : Corpus}
    (parsed : Query.terms query.text.toList = .ok terms) (decides : visibility.Decides shown)
    (batchSize limit : Nat) :
    (∀ bench table after, (secureFacets corpus.backend visibility query batchSize limit).run bench =
        some (.ok table, after) →
      CountsOccurrences (corpus.visible terms shown) (corpus.selected terms).length table) ∧
    (∀ usage table next, corpus.backend.aggregate query limit usage = (.ok table, next) →
      CountsOccurrences (corpus.hits terms) (corpus.selected terms).length table) := by
  constructor
  · intro bench table after counted
    rw [Corpus.secureFacets_eq_of_ok parsed decides counted, ← Corpus.length_hits]
    exact countFacets_countsOccurrences (List.length_filter_le _ _) _ _
  · intro usage table next answered
    have tabled : corpus.table query limit = .ok table := congrArg Prod.fst answered
    obtain rfl := Except.ok.inj (tabled.symm.trans (corpus.table_eq parsed limit))
    exact countFacets_countsOccurrences (Nat.le_of_eq Corpus.length_hits) _ _

/-- A document without repeated labels is counted once, under each of them. -/
theorem counts_occurrences_apart :
    let corpus : Corpus := { documents :=
      [⟨"a", .ofList [("kind", .array [.string "x", .integer 1])], ["all"]⟩,
        ⟨"b", .ofList [("kind", .string "x")], []⟩] }
    let visibility := Visibility.ofPredicate fun hit => "all" ∈ hit.readers
    ∃ table after,
      (secureFacets corpus.backend visibility ⟨"*", ["kind"]⟩ 1 5).run ⟨⟨{}, []⟩, 0⟩ =
        some (.ok table, after) ∧
      CountsOccurrences (corpus.visible [] fun hit => "all" ∈ hit.readers) 2 table := by
  intro corpus visibility
  have steady : corpus.failAfterPages = none := rfl
  have parsed : Query.terms (Query.mk "*" ["kind"]).text.toList = .ok [] := by decide
  have decides : visibility.Decides fun hit => "all" ∈ hit.readers := fun _ _ => rfl
  obtain ⟨table, after, -, counted⟩ :=
    Corpus.secureFacets_tabulates steady parsed decides Nat.one_pos 5 ⟨⟨{}, []⟩, 0⟩
  exact ⟨table, after, counted, (counts_occurrences parsed decides 1 5).1 _ _ _ counted⟩

/-- The only document has a label twice, and the label is counted twice. -/
theorem secureFacets_counts_twice :
    let corpus : Corpus := { documents :=
      [⟨"a", .ofList [("kind", .array [.string "x", .string "x"])], ["*"]⟩] }
    let query : Query := ⟨"*", ["kind"]⟩
    let visibility := Visibility.ofPredicate fun _ => true
    ∃ table after page,
      (secureFacets corpus.backend visibility query 1000 5).run ⟨⟨{}, []⟩, 0⟩ =
        some (.ok table, after) ∧
      (corpus.backend.aggregate query 5 {}).1 = .ok table ∧
      (corpus.backend.fetchPage query 1000 0 {}).1 = .ok page ∧
      table.get? "kind" = some [⟨"x", 2⟩] ∧ carriers page.hits "kind" "x" = 1 ∧
      page.totalHits = 1 := by
  intro corpus query visibility
  have steady : corpus.failAfterPages = none := rfl
  have parsed : Query.terms query.text.toList = .ok [] := by decide
  have decides : visibility.Decides fun _ => true := fun _ _ => rfl
  obtain ⟨last, sifts⟩ := (decides.on (corpus.hits [])).sifts 0
  obtain ⟨signals, counted⟩ := Corpus.run_secureFacets steady parsed (by decide : 0 < 1000)
    ⟨⟨{}, []⟩, 0⟩ sifts 5
  have twice : entriesOf (tally ["x", "x"]) = [⟨"x", 2⟩] := by decide
  have paged := congrArg Prod.fst (Corpus.fetchPage_eq steady parsed 1000 0 {})
  refine ⟨_, _, _, counted, corpus.table_eq parsed 5, paged, ?_, by decide, rfl⟩
  rw [get?_countFacets, if_pos List.mem_cons_self]
  show some (topEntries 5 (entriesOf (tally ["x", "x"]))) = _
  rw [twice, topEntries, List.mergeSort_singleton]
  rfl

end Corpus

end VisibleFacets
