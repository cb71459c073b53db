import VisibleFacets.Proofs.Command.Layering
import VisibleFacets.Proofs.Facet.Alongside

/-!
# What a comparison prints

A comparison whose layers are sound, whose documents load and whose query is well-formed prints a
block for every facet that it names, and any other one prints nothing: `Command.compare_prints`.
-/

namespace VisibleFacets

/-! ## Names without repetition -/

theorem mem_distinctNames {names : List String} {name : String} :
    name ∈ distinctNames names ↔ name ∈ names := by
  rw [distinctNames, Dict.mem_keys_iff, Dict.get?_ofList_map]
  by_cases member : name ∈ names <;> simp [member]

theorem ascending_distinctNames (names : List String) :
    (distinctNames names).Pairwise fun first second => Text.utf8 first < Text.utf8 second := by
  have ascending := (Dict.ofList (names.map (·, ()))).ascending
  exact List.pairwise_map.mpr (ascending.imp Text.utf8_lt_of_lt)

/-! ## Documents of a file -/

theorem Corpus.InFile.steady [Memory] {state : PathState} {corpus : Corpus}
    (holds : corpus.InFile state) : corpus.failAfterPages = none := by
  obtain ⟨text, -, loaded⟩ := holds
  unfold Corpus.load at loaded
  split at loaded
  · split at loaded
    · cases loaded
      rfl
    · cases loaded
  · cases loaded

/-! ## Blocks -/

/-- A column of a row: the label's count, or a dash where the label is not listed. -/
def Shows (listed : List Entry) (label : String) (column : List Char) : Prop :=
  (∃ entry ∈ listed, entry.label = label ∧ column = Nat.toDigits 10 entry.count) ∨
    label ∉ listed.map Entry.label ∧ column = ['-']

theorem shows_countColumn {table : FacetTable} {facet : String} {listed : List Entry}
    (read : table.get? facet = some listed) (label : String) :
    Shows listed label (countColumn table facet label) := by
  unfold countColumn FacetTable.count?
  rw [read, Option.bind_some]
  cases found : listed.find? (·.label = label) with
  | some entry =>
    have same : entry.label = label := by simpa using List.find?_some found
    exact .inl ⟨entry, List.mem_of_find?_eq_some found, same, rfl⟩
  | none =>
    refine .inr ⟨fun member => ?_, rfl⟩
    obtain ⟨entry, present, same⟩ := List.mem_map.mp member
    simpa [same] using List.find?_eq_none.mp found entry present

def summary (query : String) (sampleSize seed : Nat) : List Char :=
  "Query: ".toList ++ query.toList ++ "  (sample size ".toList ++ Nat.toDigits 10 sampleSize ++
    ", seed ".toList ++ Nat.toDigits 10 seed ++ [')', '\n']

/-- The label takes up 32 places from the left, and each of the columns 12 up to the right. -/
def rowText (label insecure secure statistical : List Char) : List Char :=
  [' ', ' '] ++ label.rightpad 32 ' ' ++
    [insecure, secure, statistical].flatMap (fun column => ' ' :: column.leftpad 12 ' ') ++ ['\n']

def blockHeading (facet : String) : List Char :=
  ['\n'] ++ facet.toList ++ ['\n'] ++ List.replicate 80 '-' ++ ['\n'] ++
    rowText "label".toList "insecure".toList "secure".toList "statistical".toList

/-- The heading, and a row for every label that is listed in some mode. -/
structure Block (lists : Mode → List Entry) (facet : String) (text : List Char)
    (labels : List String) (columns : String → Mode → List Char) : Prop where
  ascending : labels.Pairwise fun first second => Text.utf8 first < Text.utf8 second
  listed : ∀ label, label ∈ labels ↔ ∃ mode, label ∈ (lists mode).map Entry.label
  shown : ∀ label mode, Shows (lists mode) label (columns label mode)
  text : text = blockHeading facet ++ labels.flatMap fun label =>
    rowText label.toList (columns label .insecure) (columns label .secure)
      (columns label .statistical)

namespace Command

theorem block_comparisonBlock {tables : Mode → FacetTable} {facet : String}
    {lists : Mode → List Entry} (read : ∀ mode, (tables mode).get? facet = some (lists mode)) :
    Block lists facet (comparisonBlock comparedModes (comparedModes.map tables) facet)
      (sharedLabels (comparedModes.map tables) facet)
      (fun label mode => countColumn (tables mode) facet label) where
  ascending := ascending_distinctNames _
  listed label := by
    rw [sharedLabels, mem_distinctNames, List.mem_flatMap]
    constructor
    · rintro ⟨table, member, listed⟩
      obtain ⟨mode, -, rfl⟩ := List.mem_map.mp member
      rw [read, Option.getD_some] at listed
      exact ⟨mode, listed⟩
    · rintro ⟨mode, listed⟩
      have compared : mode ∈ comparedModes := by cases mode <;> decide
      refine ⟨tables mode, List.mem_map_of_mem compared, ?_⟩
      rwa [read, Option.getD_some]
  shown label mode := shows_countColumn (read mode) label
  text := rfl

/-! ## Runs -/

/-- The block of a facet, from the tables of the modes, and how its columns compare where so many
documents match. -/
def PrintsBlock (matched sampleSize : Nat) (tables : Mode → FacetTable) (facet : String)
    (text : List Char) : Prop :=
  ∃ lists labels columns, (∀ mode, (tables mode).get? facet = some (lists mode)) ∧
    Block lists facet text labels columns ∧ Alongside matched sampleSize lists ∧
    (matched < sampleSize → ∀ label, columns label .statistical = columns label .secure)

theorem printComparison_eq (query : Query) (plan : SamplePlan) (modes : List Mode)
    (tables : List FacetTable) :
    printComparison query plan modes tables = summary query.text plan.sampleSize plan.seed ++
      (query.facets.map (comparisonBlock modes tables)).flatten := by
  rw [← List.flatMap_def]
  rfl

section Runs

variable [Memory]

/-- What a comparison comes to. It fails only where a layer is at fault, the documents do not load
or the query is malformed. -/
inductive Comparison (files : String → PathState) (environment : String → Option String)
    (drawn : Nat) (invocation : Invocation) : RunResult → Prop
  | failed {message : String}
      (reason : ∀ file held corpus,
        Sound (files invocation.settingsPath) environment file held (.ofInvocation invocation) →
        Corpus.InFile (files invocation.arguments.data) corpus →
        ∃ error, Query.terms invocation.arguments.query.toList = .error error) :
      Comparison files environment drawn invocation
        { status := 1, output := [], message := some message }
  | printed {file : Layer} {held : Variables} {corpus : Corpus} {settings : FacetSettings}
      {seed : Nat} {terms : List Term} {tables : Mode → FacetTable} {blocks : List (List Char)}
      (sound : Sound (files invocation.settingsPath) environment file held
        (.ofInvocation invocation))
      (settled : resolve file held (.ofInvocation invocation) = settings)
      (seeded : settings.seed.getD drawn = seed)
      (holds : corpus.InFile (files invocation.arguments.data))
      (parsed : Query.terms invocation.arguments.query.toList = .ok terms)
      (counted : ∀ mode, Answers corpus.backend (.ofPrincipals invocation.arguments.principals)
        ⟨invocation.arguments.query, invocation.arguments.facets⟩
        ⟨settings.sampleSize, seed, settings.batchSize⟩ mode invocation.arguments.numFacets
        (tables mode))
      (prints : List.Forall₂ (PrintsBlock (corpus.selected terms).length settings.sampleSize tables)
        invocation.arguments.facets blocks) :
      Comparison files environment drawn invocation
        { status := 0
          output := summary invocation.arguments.query settings.sampleSize seed ++ blocks.flatten }

theorem printsBlock_answer (corpus : Corpus) (terms : List Term) (plan : SamplePlan)
    (shown : Hit → Bool) (limit : Nat) {facet : String} {facets : List String}
    (named : facet ∈ facets) :
    let tables := corpus.answer terms facets plan shown limit
    PrintsBlock (corpus.selected terms).length plan.sampleSize tables facet
      (comparisonBlock comparedModes (comparedModes.map tables) facet) := by
  intro tables
  have read (mode : Mode) : (tables mode).get? facet =
      some (corpus.answerUnder terms facet plan shown limit mode) :=
    Corpus.get?_answer named limit mode
  have alongside := corpus.answer_alongside terms facet plan shown limit
  refine ⟨_, _, _, read, block_comparisonBlock read, alongside, fun few label => ?_⟩
  simp only [countColumn, FacetTable.count?, read, alongside.exact few]

section Outcomes

variable {corpus : Corpus} {text : String} {facets principals : List String}
  {settings : FacetSettings} {drawn : Nat}

theorem tableIn_malformed {plan : SamplePlan} {error : Error} (valid : plan.validate = .ok ())
    (malformed : Query.terms text.toList = .error error) (limit : Nat) :
    tableIn ⟨corpus, ⟨text, facets⟩, principals, settings⟩ plan limit .insecure =
      some (.error error) := by
  rw [tableIn, facetsIn, valid]
  show some (corpus.table ⟨text, facets⟩ limit) = _
  rw [Corpus.table, Corpus.matching, malformed]
  rfl

theorem perform_malformed {error : Error} (valid : (settings.plan drawn).validate = .ok ())
    (malformed : Query.terms text.toList = .error error) (limit : Nat) :
    perform .compare limit drawn ⟨corpus, ⟨text, facets⟩, principals, settings⟩ =
      some (.error error) := by
  have first : tableIn ⟨corpus, ⟨text, facets⟩, principals, settings⟩ (settings.plan drawn) limit
      .insecure = (throw error : ExceptT Error Option FacetTable) :=
    tableIn_malformed valid malformed limit
  unfold perform
  simp only [comparedModes, List.mapM_cons, first]
  rfl

theorem tableIn_of_answers {query : Query} {plan : SamplePlan} {mode : Mode} {limit : Nat}
    {table : FacetTable}
    (answers : Answers corpus.backend (.ofPrincipals principals) query plan mode limit table) :
    tableIn ⟨corpus, query, principals, settings⟩ plan limit mode = some (.ok table) := by
  obtain ⟨count, made, counts⟩ := answers
  obtain ⟨after, counted⟩ := counts ⟨⟨{}, []⟩, 0⟩
  rw [tableIn, made]
  simp only [counted, Option.map_some]

theorem perform_answers {query : Query} {limit : Nat} {tables : Mode → FacetTable}
    (answers : ∀ mode, Answers corpus.backend (.ofPrincipals principals) query
      (settings.plan drawn) mode limit (tables mode)) :
    perform .compare limit drawn ⟨corpus, query, principals, settings⟩ =
      some (.ok (printComparison query (settings.plan drawn) comparedModes
        (comparedModes.map tables))) := by
  have all : tableIn ⟨corpus, query, principals, settings⟩ (settings.plan drawn) limit =
      fun mode => (pure (tables mode) : ExceptT Error Option FacetTable) :=
    funext fun mode => tableIn_of_answers (answers mode)
  unfold perform
  simp only [all, List.mapM_pure, map_pure]
  rfl

theorem perform_printed {terms : List Term} (steady : corpus.failAfterPages = none)
    (valid : (settings.plan drawn).validate = .ok ()) (parsed : Query.terms text.toList = .ok terms)
    (limit : Nat) : ∃ (tables : Mode → FacetTable) (blocks : List (List Char)),
      perform .compare limit drawn ⟨corpus, ⟨text, facets⟩, principals, settings⟩ =
        some (.ok (summary text settings.sampleSize (settings.seed.getD drawn) ++
          blocks.flatten)) ∧
      (∀ mode, Answers corpus.backend (.ofPrincipals principals) ⟨text, facets⟩
        ⟨settings.sampleSize, settings.seed.getD drawn, settings.batchSize⟩ mode limit
        (tables mode)) ∧
      List.Forall₂ (PrintsBlock (corpus.selected terms).length settings.sampleSize tables) facets
        blocks := by
  let readable (hit : Hit) := canRead principals hit.readers
  let tables := corpus.answer terms facets (settings.plan drawn) readable limit
  have decides : (Visibility.ofPrincipals principals).Decides readable := fun _ _ => rfl
  have wellFormed : Query.terms (Query.mk text facets).text.toList = .ok terms := parsed
  have answers (mode : Mode) := corpus.answers steady wellFormed valid (decides.on _) mode limit
  refine ⟨tables, facets.map (comparisonBlock comparedModes (comparedModes.map tables)), ?_,
    answers, ?_⟩
  · have performed := perform_answers answers
    rwa [printComparison_eq] at performed
  · rw [List.forall₂_map_right_iff, List.forall₂_same]
    intro facet named
    exact printsBlock_answer corpus terms (settings.plan drawn) readable limit named

end Outcomes

theorem execute_compare (files : String → PathState) (environment : String → Option String)
    {invocation : Invocation} (comparing : invocation.task = .compare) (drawn : Nat) :
    ∃ outcome, execute files environment drawn invocation = some outcome ∧
      Comparison files environment drawn invocation (match outcome with
        | .error failure => { status := 1, message := some failure.message }
        | .ok output => { status := 0, output }) := by
  unfold execute
  cases made : prepareInvocation files environment invocation with
  | error failure =>
    refine ⟨_, rfl, .failed fun file held corpus sound holds => ?_⟩
    rw [prepareInvocation_eq_ok_iff.mpr ⟨file, held, corpus, sound, holds, rfl⟩] at made
    cases made
  | ok prepared =>
    obtain ⟨file, held, corpus, sound, holds, rfl⟩ := prepareInvocation_eq_ok_iff.mp made
    have valid : ((resolve file held (.ofInvocation invocation)).plan drawn).validate = .ok () :=
      checkSizes_eq_ok_iff.mpr sound.options_positive
    simp only [comparing]
    cases parsed : Query.terms invocation.arguments.query.toList with
    | error error =>
      rw [perform_malformed valid parsed]
      exact ⟨_, rfl, .failed fun _ _ _ _ _ => ⟨error, parsed⟩⟩
    | ok terms =>
      obtain ⟨tables, blocks, performed, answers, prints⟩ :=
        perform_printed holds.steady valid parsed invocation.arguments.numFacets
      rw [performed]
      exact ⟨_, rfl, .printed sound rfl rfl holds parsed answers prints⟩

/-- Whatever the files, the variables and the arguments hold. -/
theorem compare_prints {arguments : List String} {invocation : Invocation}
    (parsed : Invocation.parse arguments = .ok invocation)
    (comparing : invocation.task = .compare) (files : String → PathState)
    (environment : String → Option String) (drawn : Nat) :
    ∃ result, run files environment drawn arguments = some result ∧
      Comparison files environment drawn invocation result := by
  obtain ⟨outcome, executed, comparison⟩ := execute_compare files environment comparing drawn
  unfold run
  simp only [parsed, executed, Option.map_some]
  exact ⟨_, rfl, comparison⟩

end Runs

/-- A facet is asked for twice, and one of its labels is hidden from a caller without principals. -/
theorem compare_prints_repeated :
    let files (path : String) : PathState :=
      if path = "docs" then
        .file ("[[\x22a\x22,\x7b\x22kind\x22:\x22x\x22\x7d,[\x22*\x22]]," ++
          "[\x22b\x22,\x7b\x22kind\x22:\x22y\x22\x7d]]").toUTF8
      else .missing
    let arguments := ["compare", "-d", "docs", "-fkind", "-f", "kind", "--seed=7"]
    let invocation : Invocation :=
      ⟨"statfacet.toml", { data := "docs", facets := ["kind", "kind"], seed := some 7 }, .compare⟩
    Invocation.parse arguments = .ok invocation ∧ invocation.task = .compare ∧
    ∃ result, run files (fun _ => none) 0 arguments = some result ∧ result.status = 0 ∧
      Comparison files (fun _ => none) 0 invocation result := by
  intro files arguments invocation
  have parsed : Invocation.parse arguments = .ok invocation := by decide +kernel
  have prepares : (prepareInvocation files (fun _ => none) invocation).isOk = true := by
    decide +kernel
  have wellFormed : Query.terms invocation.arguments.query.toList = .ok [] := by decide
  obtain ⟨result, executed, comparison⟩ := compare_prints parsed rfl files (fun _ => none) 0
  refine ⟨parsed, rfl, result, executed, ?_, comparison⟩
  cases comparison with
  | printed => rfl
  | failed reason =>
    cases made : prepareInvocation files (fun _ => none) invocation with
    | error failure =>
      rw [made] at prepares
      cases prepares
    | ok prepared =>
      obtain ⟨file, held, corpus, sound, holds, -⟩ := prepareInvocation_eq_ok_iff.mp made
      obtain ⟨error, malformed⟩ := reason file held corpus sound holds
      rw [wellFormed] at malformed
      cases malformed

end Command

end VisibleFacets
