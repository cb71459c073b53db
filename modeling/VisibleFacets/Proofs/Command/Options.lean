import VisibleFacets.Command.Arguments
import VisibleFacets.Proofs.Settings.Layers

/-!
# What the options of a command line decide

Where a command line is understood, each of its options has a value of its kind, and the invocation
holds these values: `Command.asks_of_parse`.
-/

namespace VisibleFacets

/-- The options of an invocation that settings follow. -/
def Layer.ofInvocation (invocation : Invocation) : Layer where
  mode := match invocation.task with
    | .facets mode => mode
    | .compare => none
  sampleSize := invocation.arguments.sampleSize
  seed := invocation.arguments.seed
  batchSize := invocation.arguments.batchSize

theorem Mode.parse_eq_ok_iff {text : String} {mode : Mode} :
    parse text = .ok mode ↔ text.map Char.toLower = mode.name := by
  rw [← ofName?_eq_some_iff]
  cases named : ofName? (text.map Char.toLower) <;> simp [parse, named]

namespace Command

/-- The text is the name of the mode, in letters of either case. -/
def IsName (text : String) (mode : Mode) : Prop := text.map Char.toLower = mode.name

/-- The text is a number, and the number fits in a word. -/
def IsNumber (text : String) (value : Nat) : Prop :=
  Text.Writes value text.toList ∧ value ≤ Text.maxWord

/-- The command line asks for a count with these options. -/
def Asks (arguments : List String) (given : Given) : Prop :=
  ∃ before rest, readOptions topOptions [] arguments = .ok (before, "facets" :: rest) ∧
    readOptions (taskOptions (.facets none)) [] rest = .ok (given, [])

/-- Each value is one that its option takes. -/
def Accepted (given : Given) : Prop := ∀ entry ∈ given, accepts entry.1 entry.2 = true

section Options

variable {options : List OptionName} {given after : Given} {arguments rest : List String}
  {option : OptionName}

theorem Accepted.give {value : String} (accepted : Accepted given)
    (gave : give given option value = .ok after) : Accepted after := by
  unfold Command.give at gave
  split at gave
  · cases gave
  · split at gave
    · rename_i fits
      cases gave
      intro entry member
      rcases List.mem_append.mp member with before | last
      · exact accepted entry before
      · obtain rfl := List.mem_singleton.mp last
        exact fits
    · cases gave

theorem Accepted.readOptions (accepted : Accepted given)
    (read : readOptions options given arguments = .ok (after, rest)) : Accepted after := by
  fun_induction Command.readOptions options given arguments
  -- At the end of the options nothing is given any more.
  case case1 | case2 | case12 =>
    cases read
    exact accepted
  -- A value is given, from the same argument or from the one behind it.
  case case7 gave ih | case11 gave ih => exact ih (accepted.give gave) read
  case case3 | case4 | case5 | case6 | case8 | case9 | case10 => cases read

theorem Accepted.value {text : String} (accepted : Accepted given)
    (found : value? given option = some text) : accepts option text = true := by
  obtain ⟨before, later, rfl, -⟩ := List.lookup_eq_some_iff.mp found
  exact accepted (option, text) (List.mem_append_right before List.mem_cons_self)

theorem Accepted.number (accepted : Accepted given)
    (numeric : ∀ text, accepts option text = isNatural text) :
    Option.Rel IsNumber (value? given option) (number? given option) := by
  unfold number?
  cases found : value? given option with
  | none => exact .none
  | some text =>
    have natural : isNatural text = true := numeric text ▸ accepted.value found
    unfold isNatural at natural
    split at natural
    · rename_i value read
      rw [Option.bind_some, read]
      exact .some (Text.readNatural_eq_ok_iff.mp read)
    · cases natural

theorem Accepted.mode (accepted : Accepted given) :
    Option.Rel IsName (value? given .mode)
      ((value? given .mode).bind fun text => (Mode.parse text).toOption) := by
  cases found : value? given .mode with
  | none => exact .none
  | some text =>
    have named : isMode text = true := accepted.value found
    unfold isMode at named
    split at named
    · rename_i mode read
      rw [Option.bind_some, read]
      exact .some (Mode.parse_eq_ok_iff.mp read)
    · cases named

end Options

/-- The texts of the options decide these settings. -/
structure Decides (given : Given) (layer : Layer) : Prop where
  mode : Option.Rel IsName (value? given .mode) layer.mode
  sampleSize : Option.Rel IsNumber (value? given .sampleSize) layer.sampleSize
  seed : Option.Rel IsNumber (value? given .seed) layer.seed
  batchSize : Option.Rel IsNumber (value? given .batchSize) layer.batchSize

theorem queryArguments?_numbers {given : Given} {arguments : QueryArguments}
    (made : queryArguments? given = some arguments) :
    arguments.sampleSize = number? given .sampleSize ∧ arguments.seed = number? given .seed ∧
      arguments.batchSize = number? given .batchSize := by
  unfold queryArguments? at made
  split at made
  · cases made
  · cases made
  · cases made
    exact ⟨rfl, rfl, rfl⟩

theorem parseTask_ok {before : Given} {task : Task} {rest : List String} {invocation : Invocation}
    (parsed : parseTask before task rest = .ok invocation) :
    ∃ given, readOptions (taskOptions task) [] rest = .ok (given, []) ∧
      queryArguments? given = some invocation.arguments ∧
      (∀ mode, task = .facets mode → invocation.task =
        .facets ((value? given .mode).bind fun text => (Mode.parse text).toOption)) ∧
      (task = .compare → invocation.task = .compare) := by
  unfold parseTask at parsed
  split at parsed
  · cases parsed
  · cases parsed
  · rename_i given read
    split at parsed
    · cases parsed
    · rename_i made
      cases parsed
      refine ⟨given, read, made, ?_, ?_⟩
      · rintro mode rfl
        rfl
      · rintro rfl
        rfl

theorem Accepted.decides {given : Given} {invocation : Invocation} (accepted : Accepted given)
    (made : queryArguments? given = some invocation.arguments)
    (task : invocation.task =
      .facets ((value? given .mode).bind fun text => (Mode.parse text).toOption)) :
    Decides given (.ofInvocation invocation) := by
  obtain ⟨size, seed, batch⟩ := queryArguments?_numbers made
  constructor
  case mode =>
    simp only [Layer.ofInvocation, task]
    exact accepted.mode
  case sampleSize =>
    simp only [Layer.ofInvocation, size]
    exact accepted.number fun _ => rfl
  case seed =>
    simp only [Layer.ofInvocation, seed]
    exact accepted.number fun _ => rfl
  case batchSize =>
    simp only [Layer.ofInvocation, batch]
    exact accepted.number fun _ => rfl

theorem asks_of_parse {arguments : List String} {invocation : Invocation} {mode : Option Mode}
    (parsed : Invocation.parse arguments = .ok invocation)
    (counting : invocation.task = .facets mode) :
    ∃ given, Asks arguments given ∧ Decides given (.ofInvocation invocation) := by
  unfold Invocation.parse at parsed
  split at parsed
  · cases parsed
  · rename_i before rest read
    obtain ⟨given, inner, made, task, -⟩ := parseTask_ok parsed
    have nothing : Accepted [] := fun _ member => absurd member List.not_mem_nil
    exact ⟨given, ⟨before, rest, read, inner⟩, (nothing.readOptions inner).decides made
      (task none rfl)⟩
  · obtain ⟨given, -, -, -, task⟩ := parseTask_ok parsed
    cases counting.symm.trans (task rfl)
  · split at parsed <;> cases parsed
  · cases parsed

end Command

end VisibleFacets
