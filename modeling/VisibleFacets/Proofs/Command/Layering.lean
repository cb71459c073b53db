import VisibleFacets.Command.Run
import VisibleFacets.Proofs.Command.Options

/-!
# The layers of a run

A count follows the settings file, the variables of the environment and the options of its command
line. `Command.settle_eq_ok_iff` says when they settle what to count with, and
`Command.facets_layered` what a run comes to.
-/

namespace VisibleFacets

/-- What a settings file decides. A missing one decides nothing. -/
inductive Layer.InFile : PathState → Layer → Prop
  | missing : InFile .missing {}
  | written {content : ByteArray} {text : String} {members : Toml.Members} {layer : Layer}
      (decoded : String.fromUTF8? content = some text)
      (parsed : Toml.document? text.toList = some members) (decides : layer.InDocument members) :
      InFile (.file content) layer

/-- The file holds the documents of the corpus. -/
def Corpus.InFile [Memory] (state : PathState) (corpus : Corpus) : Prop :=
  ∃ text, state.text? = some text ∧ Corpus.load text.toList = .ok corpus

/-- What the variables of the environment decide. -/
structure Variables.InEnvironment (environment : String → Option String) (decided : Variables) :
    Prop where
  sampleSize : Settings.Holds environment Settings.sampleSizeVariable decided.sampleSize
  seed : Settings.Holds environment Settings.seedVariable decided.seed

theorem Layer.exists_inFile {text : String} {settings : Settings}
    (read : (Toml.document? text.toList).bind Settings.ofMembers? = some settings) :
    ∃ layer : Layer, layer.InFile (.file text.toUTF8) ∧ settings.facets = resolve layer {} {} := by
  obtain ⟨members, parsed, read⟩ := Option.bind_eq_some_iff.mp read
  obtain ⟨layer, decides, same⟩ := Settings.ofMembers?_decides read
  exact ⟨layer, .written (PathState.text?_file text) parsed decides, same⟩

theorem Layer.InFile.unique {state : PathState} {first second : Layer} (left : first.InFile state)
    (right : second.InFile state) : first = second := by
  cases left with
  | missing =>
    cases right
    rfl
  | written decoded parsed decides =>
    cases right with
    | written again reparsed also =>
      obtain rfl := Option.some.inj (decoded.symm.trans again)
      obtain rfl := Option.some.inj (parsed.symm.trans reparsed)
      exact decides.unique also

theorem Variables.InEnvironment.unique {environment : String → Option String}
    {first second : Variables} (left : first.InEnvironment environment)
    (right : second.InEnvironment environment) : first = second :=
  Variables.ext (left.sampleSize.unique right.sampleSize) (left.seed.unique right.seed)

namespace Command

/-! ## Effective settings -/

section Settled

variable {state : PathState} {environment : String → Option String} {path : String}
  {file : Layer} {held : Variables} {settings : Settings}

theorem loadSettings_ok (loaded : loadSettings state = .ok settings) :
    ∃ file, Layer.InFile state file ∧ settings.facets = resolve file {} {} ∧
      settings.facets.Positive := by
  cases state with
  | missing =>
    cases loaded
    exact ⟨{}, .missing, rfl, by decide, by decide⟩
  | directory => cases loaded
  | file content =>
    cases decoded : String.fromUTF8? content with
    | none =>
      simp only [loadSettings, decoded] at loaded
      cases loaded
    | some text =>
      simp only [loadSettings, decoded] at loaded
      obtain ⟨members, parsed, read, positive⟩ := Settings.load_eq_ok_iff.mp loaded
      obtain ⟨layer, decides, same⟩ := Settings.ofMembers?_decides read
      exact ⟨layer, .written decoded parsed decides, same, positive⟩

theorem loadSettings_of_inFile (decides : file.InFile state)
    (positive : (resolve file {} {}).Positive) :
    ∃ settings, loadSettings state = .ok settings ∧ settings.facets = resolve file {} {} := by
  cases decides with
  | missing => exact ⟨{}, rfl, rfl⟩
  | written decoded parsed decides =>
    obtain ⟨settings, read, same⟩ := Settings.ofMembers?_of_decides decides
    have loaded := Settings.load_eq_ok_iff.mpr ⟨_, parsed, read, same ▸ positive⟩
    exact ⟨settings, by simp only [loadSettings, decoded, loaded], same⟩

theorem override_facets (held : Variables) (same : settings.facets = resolve file {} {}) :
    ((settings.withSampleSize held.sampleSize).withSeed held.seed).facets =
      resolve file held {} := by
  simp only [Settings.withSampleSize, Settings.withSeed, same, resolve, Option.none_or,
    Option.getD_or]

theorem effectiveSettings_ok (effective : effectiveSettings state environment path = .ok settings) :
    ∃ file held, Layer.InFile state file ∧ Variables.InEnvironment environment held ∧
      (resolve file {} {}).Positive ∧ (resolve file held {}).Positive ∧
      settings.facets = resolve file held {} := by
  cases loaded : loadSettings state with
  | error fault =>
    simp only [effectiveSettings, loaded] at effective
    cases effective
  | ok below =>
    obtain ⟨file, decides, same, positive⟩ := loadSettings_ok loaded
    rcases overridden : below.override environment with ⟨fault | ⟨⟩, after⟩
    · simp only [effectiveSettings, loaded, overridden] at effective
      cases effective
    · simp only [effectiveSettings, loaded, overridden] at effective
      cases effective
      obtain ⟨size, seed, size_held, seed_held, rfl, valid⟩ :=
        Settings.override_eq_ok_iff.mp overridden
      have facets := override_facets ⟨size, seed⟩ same
      exact ⟨file, ⟨size, seed⟩, decides, ⟨size_held, seed_held⟩, same ▸ positive,
        facets ▸ valid, facets⟩

theorem effectiveSettings_of_layers (decides : file.InFile state)
    (holds : held.InEnvironment environment) (positive : (resolve file {} {}).Positive)
    (still : (resolve file held {}).Positive) (path : String) :
    ∃ settings, effectiveSettings state environment path = .ok settings ∧
      settings.facets = resolve file held {} := by
  obtain ⟨below, loaded, same⟩ := loadSettings_of_inFile decides positive
  have facets := override_facets held same
  have overridden := Settings.override_eq_ok_iff.mpr
    ⟨_, _, holds.sampleSize, holds.seed, rfl, facets.symm ▸ still⟩
  exact ⟨_, by simp only [effectiveSettings, loaded, overridden], facets⟩

end Settled

/-- The settings of an invocation, before any document is read. -/
def settle (state : PathState) (environment : String → Option String) (invocation : Invocation) :
    Except Failure FacetSettings := do
  let settings ← effectiveSettings state environment invocation.settingsPath
  let settings := applyOptions invocation.arguments (applyMode invocation.task settings.facets)
  (settings.validate.map fun _ => settings).mapError .counting

/-- What is left to prepare once the settings are settled. The documents are read only here. -/
def gather [Memory] (files : String → PathState) (arguments : QueryArguments)
    (settings : FacetSettings) : Except Failure Prepared :=
  match (files arguments.data).text?.map (Corpus.load ·.toList) with
  | some (.ok corpus) =>
    .ok ⟨corpus, ⟨arguments.query, arguments.facets⟩, arguments.principals, settings⟩
  | _ => .error (.documents arguments.data)

/-- Every layer makes sense, and after each of them neither size is zero. -/
structure Sound (state : PathState) (environment : String → Option String) (file : Layer)
    (held : Variables) (options : Layer) : Prop where
  in_file : file.InFile state
  in_environment : held.InEnvironment environment
  file_positive : (resolve file {} {}).Positive
  held_positive : (resolve file held {}).Positive
  options_positive : (resolve file held options).Positive

/-- Some layer makes no sense, or leaves a size at zero. -/
inductive Faulty (state : PathState) (environment : String → Option String) (options : Layer) :
    Prop
  | file_malformed (malformed : ∀ file : Layer, ¬file.InFile state) :
      Faulty state environment options
  | file_zero {file : Layer} (in_file : file.InFile state)
      (zero : ¬(resolve file {} {}).Positive) : Faulty state environment options
  | environment_malformed (malformed : ∀ held : Variables, ¬held.InEnvironment environment) :
      Faulty state environment options
  | environment_zero {file : Layer} {held : Variables} (in_file : file.InFile state)
      (in_environment : held.InEnvironment environment)
      (zero : ¬(resolve file held {}).Positive) : Faulty state environment options
  | options_zero {file : Layer} {held : Variables} (in_file : file.InFile state)
      (in_environment : held.InEnvironment environment)
      (zero : ¬(resolve file held options).Positive) : Faulty state environment options

/-- How a run ends that counts, and what it prints. -/
def report : Except Error FacetTable → RunResult
  | .error error => { status := 1, message := some error.message }
  | .ok table => { status := 0, output := Json.indented 0 (FacetTable.toJson table) ++ ['\n'] }

theorem sound_or_faulty (state : PathState) (environment : String → Option String)
    (options : Layer) :
    (∃ file held, Sound state environment file held options) ∨
      Faulty state environment options := by
  by_cases some_file : ∃ file : Layer, file.InFile state
  case neg => exact .inr (.file_malformed (not_exists.mp some_file))
  obtain ⟨file, in_file⟩ := some_file
  by_cases file_positive : (resolve file {} {}).Positive
  case neg => exact .inr (.file_zero in_file file_positive)
  by_cases some_held : ∃ held : Variables, held.InEnvironment environment
  case neg => exact .inr (.environment_malformed (not_exists.mp some_held))
  obtain ⟨held, in_environment⟩ := some_held
  by_cases held_positive : (resolve file held {}).Positive
  case neg => exact .inr (.environment_zero in_file in_environment held_positive)
  by_cases options_positive : (resolve file held options).Positive
  case neg => exact .inr (.options_zero in_file in_environment options_positive)
  exact .inl ⟨file, held, in_file, in_environment, file_positive, held_positive, options_positive⟩

theorem Faulty.not_sound {state : PathState} {environment : String → Option String}
    {options : Layer} (faulty : Faulty state environment options) (file : Layer)
    (held : Variables) : ¬Sound state environment file held options := by
  intro sound
  -- A file and an environment decide one thing each, so the fault is one of these layers.
  cases faulty with
  | file_malformed malformed => exact malformed file sound.in_file
  | file_zero in_file zero =>
    rw [in_file.unique sound.in_file] at zero
    exact zero sound.file_positive
  | environment_malformed malformed => exact malformed held sound.in_environment
  | environment_zero in_file in_environment zero =>
    rw [in_file.unique sound.in_file, in_environment.unique sound.in_environment] at zero
    exact zero sound.held_positive
  | options_zero in_file in_environment zero =>
    rw [in_file.unique sound.in_file, in_environment.unique sound.in_environment] at zero
    exact zero sound.options_positive

section Runs

variable {files : String → PathState} {state : PathState} {environment : String → Option String}
  {invocation : Invocation} {settings : FacetSettings} {file : Layer} {held : Variables}

theorem applyOptions_resolve (invocation : Invocation) (file : Layer) (held : Variables) :
    applyOptions invocation.arguments (applyMode invocation.task (resolve file held {})) =
      resolve file held (.ofInvocation invocation) := by
  obtain ⟨path, arguments, task⟩ := invocation
  simp only [applyOptions, resolve, Layer.ofInvocation, Option.getD_or]
  rcases task with (_ | mode) | _ <;> rfl

theorem settle_of_effective {below : Settings}
    (effective : effectiveSettings state environment invocation.settingsPath = .ok below)
    (facets : below.facets = resolve file held {}) :
    settle state environment invocation = .ok settings ↔
      (resolve file held (.ofInvocation invocation)).Positive ∧
      resolve file held (.ofInvocation invocation) = settings := by
  rw [← FacetSettings.validated_eq_ok_iff, ← mapError_eq_ok_iff (f := Failure.counting), settle,
    effective, ← applyOptions_resolve, ← facets]
  rfl

theorem settle_eq_ok_iff : settle state environment invocation = .ok settings ↔
    ∃ file held, Sound state environment file held (.ofInvocation invocation) ∧
      resolve file held (.ofInvocation invocation) = settings := by
  constructor
  · intro settled
    cases effective : effectiveSettings state environment invocation.settingsPath with
    | error failure =>
      rw [settle, effective] at settled
      cases settled
    | ok below =>
      obtain ⟨file, held, decides, holds, positive, still, facets⟩ := effectiveSettings_ok effective
      obtain ⟨valid, same⟩ := (settle_of_effective effective facets).mp settled
      exact ⟨file, held, ⟨decides, holds, positive, still, valid⟩, same⟩
  · rintro ⟨file, held, sound, same⟩
    obtain ⟨below, effective, facets⟩ := effectiveSettings_of_layers sound.in_file
      sound.in_environment sound.file_positive sound.held_positive invocation.settingsPath
    exact (settle_of_effective effective facets).mpr ⟨sound.options_positive, same⟩

variable [Memory]

theorem gather_eq_ok_iff {arguments : QueryArguments} {prepared : Prepared} :
    gather files arguments settings = .ok prepared ↔
      ∃ corpus, Corpus.InFile (files arguments.data) corpus ∧
        ⟨corpus, ⟨arguments.query, arguments.facets⟩, arguments.principals, settings⟩ =
          prepared := by
  unfold gather
  constructor
  · intro gathered
    split at gathered
    · rename_i corpus read
      obtain ⟨text, present, loaded⟩ := Option.map_eq_some_iff.mp read
      exact ⟨corpus, ⟨text, present, loaded⟩, Except.ok.inj gathered⟩
    · cases gathered
  · rintro ⟨corpus, ⟨text, present, loaded⟩, rfl⟩
    simp only [present, Option.map_some, loaded]

theorem prepareInvocation_eq : prepareInvocation files environment invocation =
    settle (files invocation.settingsPath) environment invocation >>=
      gather files invocation.arguments := by
  unfold prepareInvocation settle prepare
  cases effectiveSettings (files invocation.settingsPath) environment invocation.settingsPath with
  | error failure => rfl
  | ok below =>
    simp only [bind, Except.bind]
    cases (applyOptions invocation.arguments (applyMode invocation.task below.facets)).validate <;>
      rfl

theorem prepareInvocation_eq_ok_iff {prepared : Prepared} :
    prepareInvocation files environment invocation = .ok prepared ↔
      ∃ file held corpus,
        Sound (files invocation.settingsPath) environment file held (.ofInvocation invocation) ∧
        Corpus.InFile (files invocation.arguments.data) corpus ∧
        ⟨corpus, ⟨invocation.arguments.query, invocation.arguments.facets⟩,
          invocation.arguments.principals, resolve file held (.ofInvocation invocation)⟩ =
          prepared := by
  rw [prepareInvocation_eq]
  constructor
  · intro prepares
    cases settled : settle (files invocation.settingsPath) environment invocation with
    | error failure =>
      rw [settled] at prepares
      cases prepares
    | ok settings =>
      rw [settled] at prepares
      obtain ⟨file, held, sound, rfl⟩ := settle_eq_ok_iff.mp settled
      obtain ⟨corpus, holds, same⟩ := gather_eq_ok_iff.mp prepares
      exact ⟨file, held, corpus, sound, holds, same⟩
  · rintro ⟨file, held, corpus, sound, holds, same⟩
    rw [settle_eq_ok_iff.mpr ⟨file, held, sound, rfl⟩]
    exact gather_eq_ok_iff.mpr ⟨corpus, holds, same⟩

theorem run_stopped {arguments : List String} {stop : ArgumentsStop}
    (stopped : Invocation.parse arguments = .error stop) :
    ∃ result : RunResult, (stop = .misuse → result.status = 2) ∧
      ∀ files environment drawn, run files environment drawn arguments = some result := by
  cases stop with
  | misuse => exact ⟨{ status := 2 }, fun _ => rfl, fun _ _ _ => by simp only [run, stopped]⟩
  | help =>
    refine ⟨{ status := 0 }, fun misused => ?_, fun _ _ _ => by simp only [run, stopped]⟩
    cases misused
  | version =>
    refine ⟨{ status := 0, output := versionLine }, fun misused => ?_, fun _ _ _ => ?_⟩
    · cases misused
    · simp only [run, stopped]

theorem facetsIn_of_valid {σ τ : Type} {plan : SamplePlan} (valid : plan.validate = .ok ())
    (mode : Mode) (backend : Backend σ) (visibility : Visibility τ) (query : Query) :
    ∃ count, facetsIn mode backend visibility query plan none = .ok count := by
  rw [facetsIn, valid]
  exact ⟨_, rfl⟩

theorem run_prepared {arguments : List String} {mode : Option Mode} {prepared : Prepared}
    (parsed : Invocation.parse arguments = .ok invocation)
    (counting : invocation.task = .facets mode)
    (prepares : prepareInvocation files environment invocation = .ok prepared) (drawn : Nat) :
    run files environment drawn arguments =
      (tableIn prepared (prepared.settings.plan drawn) invocation.arguments.numFacets
        prepared.settings.mode).run.map report := by
  simp only [run, parsed, execute, prepares, perform, counting]
  generalize tableIn _ _ _ _ = outcome
  rcases outcome with _ | _ | _
  · rfl
  · rfl
  · rfl

theorem run_unsettled {arguments : List String} {failure : Failure}
    (parsed : Invocation.parse arguments = .ok invocation)
    (unsettled : settle (files invocation.settingsPath) environment invocation = .error failure)
    (drawn : Nat) :
    run files environment drawn arguments =
      some { status := 1, message := some failure.message } := by
  have failed : prepareInvocation files environment invocation = .error failure := by
    rw [prepareInvocation_eq, unsettled]
    rfl
  simp only [run, parsed, execute, failed, Option.map_some]

end Runs

/-- How a count follows its layers. With a layer at fault it ends without a look at the documents,
whatever the layers behind it decide. -/
structure Layered [Memory] (files : String → PathState) (environment : String → Option String)
    (drawn : Nat) (arguments : List String) (invocation : Invocation) (options : Layer) : Prop where
  decided : (∃ file held, Sound (files invocation.settingsPath) environment file held options) ∨
    Faulty (files invocation.settingsPath) environment options
  counts : ∀ (file : Layer) (held : Variables) (corpus : Corpus),
    Sound (files invocation.settingsPath) environment file held options →
    corpus.InFile (files invocation.arguments.data) →
    ∃ count,
      facetsIn ((options.mode.or file.mode).getD .statistical) corpus.backend
        (.ofPrincipals invocation.arguments.principals)
        ⟨invocation.arguments.query, invocation.arguments.facets⟩
        { sampleSize := (options.sampleSize.or (held.sampleSize.or file.sampleSize)).getD 1000
          seed := (options.seed.or (held.seed.or file.seed)).getD drawn
          batchSize := (options.batchSize.or file.batchSize).getD 1000 } none = .ok count ∧
      run files environment drawn arguments =
        ((count invocation.arguments.numFacets).run ⟨⟨{}, []⟩, 0⟩).map fun outcome =>
          report outcome.1
  aborts : Faulty (files invocation.settingsPath) environment options →
    ∃ message, ∀ others : String → PathState,
      others invocation.settingsPath = files invocation.settingsPath →
      run others environment drawn arguments = some { status := 1, message := some message }

/-- Whatever the files, the variables and the arguments hold. A command line that makes no sense
ends the run before any other layer is looked at. -/
theorem facets_layered [Memory] (files : String → PathState)
    (environment : String → Option String) (drawn : Nat) (arguments : List String) :
    (∀ stop, Invocation.parse arguments = .error stop → ∃ result : RunResult,
      (stop = .misuse → result.status = 2) ∧
      ∀ others elsewhere seed, run others elsewhere seed arguments = some result) ∧
    ∀ invocation mode, Invocation.parse arguments = .ok invocation →
      invocation.task = .facets mode →
      (∃ given, Asks arguments given ∧ Decides given (.ofInvocation invocation)) ∧
      Layered files environment drawn arguments invocation (.ofInvocation invocation) := by
  refine ⟨fun stop stopped => run_stopped stopped, fun invocation mode parsed counting => ?_⟩
  refine ⟨asks_of_parse parsed counting, sound_or_faulty _ _ _, ?_, ?_⟩
  · intro file held corpus sound holds
    have prepares := prepareInvocation_eq_ok_iff.mpr ⟨file, held, corpus, sound, holds, rfl⟩
    have valid : ((resolve file held (.ofInvocation invocation)).plan drawn).validate = .ok () :=
      checkSizes_eq_ok_iff.mpr sound.options_positive
    obtain ⟨count, made⟩ := facetsIn_of_valid valid
      (resolve file held (.ofInvocation invocation)).mode corpus.backend
      (.ofPrincipals invocation.arguments.principals)
      ⟨invocation.arguments.query, invocation.arguments.facets⟩
    refine ⟨count, made, ?_⟩
    rw [run_prepared parsed counting prepares, tableIn, made]
    exact Option.map_map report Prod.fst _
  · intro faulty
    cases settled : settle (files invocation.settingsPath) environment invocation with
    | ok settings =>
      obtain ⟨file, held, sound, -⟩ := settle_eq_ok_iff.mp settled
      exact absurd sound (faulty.not_sound file held)
    | error failure =>
      refine ⟨failure.message, fun others same => ?_⟩
      exact run_unsettled parsed (same ▸ settled) drawn

/-- The file, a variable and an option decide about different settings. Once the file asks for an
empty sample, it does not help that the variable asks for another. -/
theorem facets_layered_mixed :
    let documents := "[[\x22a\x22,\x7b\x22kind\x22:\x22x\x22\x7d,[\x22*\x22]]," ++
      "[\x22b\x22,\x7b\x22kind\x22:\x22y\x22\x7d]]"
    let files (text path : String) : PathState :=
      if path = "statfacet.toml" then .file text.toUTF8 else .file documents.toUTF8
    let environment (name : String) : Option String :=
      if name = Settings.sampleSizeVariable then some " +03" else none
    let arguments := ["facets", "-d", "docs", "-fkind", "--batch-size=2"]
    let invocation : Invocation :=
      ⟨"statfacet.toml", { data := "docs", facets := ["kind"], batchSize := some 2 }, .facets none⟩
    let text := "[facets]\nmode = \x22secure\x22\nsample_size = 7\nrandom_seed = 5\n"
    Invocation.parse arguments = .ok invocation ∧
    (∃ corpus count, Corpus.InFile (files text "docs") corpus ∧
      facetsIn .secure corpus.backend (.ofPrincipals []) ⟨"*", ["kind"]⟩ ⟨3, 5, 2⟩ none =
        .ok count ∧
      run (files text) environment 9 arguments =
        ((count 10).run ⟨⟨{}, []⟩, 0⟩).map fun outcome => report outcome.1) ∧
    ∃ message, ∀ others : String → PathState,
      others "statfacet.toml" = files "[facets]\nsample_size = 0\n" "statfacet.toml" →
      run others environment 9 arguments = some { status := 1, message := some message } := by
  intro documents files environment arguments invocation text
  have parsed : Invocation.parse arguments = .ok invocation := by decide +kernel
  have held : Variables.InEnvironment environment { sampleSize := some 3 } :=
    ⟨.some (Text.readNatural_trim_eq_ok_iff.mp (by decide)), .none⟩
  refine ⟨parsed, ?_, ?_⟩
  · have read : (Toml.document? text.toList).bind Settings.ofMembers? =
        some ⟨⟨.secure, 7, some 5, 1000⟩, {}⟩ := by decide +kernel
    obtain ⟨file, in_file, facets⟩ := Layer.exists_inFile read
    let settings := resolve file { sampleSize := some 3 } (.ofInvocation invocation)
    have mixed : settings = ⟨.secure, 3, some 5, 2⟩ := by
      change FacetSettings.mk (resolve file {} {}).mode 3 (resolve file {} {}).seed 2 = _
      rw [← facets]
    have batch : 0 < (resolve file {} {}).batchSize := by
      rw [← facets]
      decide
    have file_positive : (resolve file {} {}).Positive := by
      rw [← facets]
      exact ⟨by decide, by decide⟩
    have sound : Sound (files text "statfacet.toml") environment file { sampleSize := some 3 }
        (.ofInvocation invocation) :=
      ⟨in_file, held, file_positive, ⟨Nat.succ_pos 2, batch⟩, Nat.succ_pos 2, Nat.succ_pos 1⟩
    have layered := (facets_layered (files text) environment 9 arguments).2 invocation none parsed
      rfl
    cases loaded : Corpus.load documents.toList with
    | error error =>
      have good : (Corpus.load documents.toList).isOk = true := by decide +kernel
      rw [loaded] at good
      cases good
    | ok corpus =>
      have in_file : corpus.InFile (files text "docs") :=
        ⟨documents, PathState.text?_file documents, loaded⟩
      obtain ⟨count, made, runs⟩ := layered.2.counts file _ corpus sound in_file
      change facetsIn settings.mode _ _ _ (settings.plan 9) none = _ at made
      rw [mixed] at made
      exact ⟨corpus, count, in_file, made, runs⟩
  · have read : (Toml.document? "[facets]\nsample_size = 0\n".toList).bind Settings.ofMembers? =
        some ⟨⟨.statistical, 0, none, 1000⟩, {}⟩ := by decide +kernel
    obtain ⟨file, in_file, facets⟩ := Layer.exists_inFile read
    have zero : ¬(resolve file {} {}).Positive := by
      rw [← facets]
      exact fun positive => absurd positive.1 (Nat.lt_irrefl 0)
    have layered := (facets_layered (files "[facets]\nsample_size = 0\n") environment 9 arguments).2
      invocation none parsed rfl
    exact layered.2.aborts (.file_zero in_file zero)

end Command

end VisibleFacets
