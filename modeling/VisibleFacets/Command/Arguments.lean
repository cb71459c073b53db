import VisibleFacets.Facet.Mode
import VisibleFacets.Text.Natural

/-!
# Arguments of the command line

An option's value is the argument behind it, or follows an equals sign or the option's letter in the
same argument. Arguments are judged from the left, and the first fault or request for help decides.
Main definition: `Invocation.parse`.
-/

namespace VisibleFacets

structure QueryArguments where
  data : String
  query : String := "*"
  facets : List String := []
  principals : List String := []
  numFacets : Nat := 10
  sampleSize : Option Nat := none
  seed : Option Nat := none
  batchSize : Option Nat := none
  deriving DecidableEq, Repr, Inhabited

inductive Task where
  | facets (mode : Option Mode)
  | compare
  deriving DecidableEq, Repr

structure Invocation where
  settingsPath : String
  arguments : QueryArguments
  task : Task
  deriving DecidableEq, Repr

inductive ArgumentsStop where
  | misuse
  | help
  | version
  deriving DecidableEq, Repr

namespace Command

inductive OptionName where
  | config
  | data
  | query
  | facet
  | principal
  | numFacets
  | sampleSize
  | seed
  | batchSize
  | mode
  | help
  | version
  deriving DecidableEq, Repr

namespace OptionName

def long : OptionName → String
  | config => "config"
  | data => "data"
  | query => "query"
  | facet => "facet"
  | principal => "principal"
  | numFacets => "num-facets"
  | sampleSize => "sample-size"
  | seed => "seed"
  | batchSize => "batch-size"
  | mode => "mode"
  | help => "help"
  | version => "version"

def letter? : OptionName → Option Char
  | config => some 'c'
  | data => some 'd'
  | query => some 'q'
  | facet => some 'f'
  | principal => some 'p'
  | numFacets => some 'n'
  | mode => some 'm'
  | help => some 'h'
  | version => some 'V'
  | sampleSize | seed | batchSize => none

def isRepeatable : OptionName → Bool
  | facet | principal => true
  | _ => false

end OptionName

def topOptions : List OptionName := [.config, .help, .version]

def queryOptions : List OptionName :=
  [.config, .data, .query, .facet, .principal, .numFacets, .sampleSize, .seed, .batchSize, .help]

def taskOptions : Task → List OptionName
  | .facets _ => .mode :: queryOptions
  | .compare => queryOptions

abbrev Given := List (OptionName × String)

def isNatural (text : String) : Bool :=
  match Text.readNatural Text.maxWord text.toList with
  | .ok _ => true
  | .error _ => false

def isMode (text : String) : Bool :=
  match Mode.parse text with
  | .ok _ => true
  | .error _ => false

/-- Paths may not be empty, numbers fit 64 bits, and modes go by their names. -/
def accepts (option : OptionName) (value : String) : Bool :=
  match option with
  | .config | .data => value ≠ ""
  | .numFacets | .sampleSize | .seed | .batchSize => isNatural value
  | .mode => isMode value
  | _ => true

def give (given : Given) (option : OptionName) (value : String) : Except ArgumentsStop Given :=
  if !option.isRepeatable && given.any (·.1 = option) then .error .misuse
  else if accepts option value then .ok (given ++ [(option, value)])
  else .error .misuse

structure Mention where
  option : OptionName
  value : Option String

/-- An argument that starts with a dash names an option; two dashes come before a whole name, one
before a letter. -/
def mention? (options : List OptionName) (argument : List Char) : Option Mention :=
  match argument with
  | '-' :: '-' :: text =>
    let name := text.takeWhile (· ≠ '=')
    let value :=
      match text.dropWhile (· ≠ '=') with
      | [] => none
      | _ :: value => some (String.ofList value)
    (options.find? (·.long.toList = name)).map (⟨·, value⟩)
  | '-' :: letter :: text =>
    let value :=
      match text with
      | [] => none
      | '=' :: value => some (String.ofList value)
      | value => some (String.ofList value)
    (options.find? (·.letter? = some letter)).map (⟨·, value⟩)
  | _ => none

def isOption : List Char → Bool
  | '-' :: _ :: _ => true
  | _ => false

def isLong : List Char → Bool
  | '-' :: '-' :: _ => true
  | _ => false

def request (argument : List Char) (mention : Mention) : Option ArgumentsStop :=
  let stop (reply : ArgumentsStop) := some
    (if isLong argument && mention.value.isSome then .misuse else reply)
  match mention.option with
  | .help => stop .help
  | .version => stop .version
  | _ => none

/-- Reads options up to the first argument that is neither an option nor a value, which is given
back with those behind it. -/
def readOptions (options : List OptionName) :
    Given → List String → Except ArgumentsStop (Given × List String)
  | given, [] => .ok (given, [])
  | given, argument :: rest =>
    let text := argument.toList
    if text = ['-', '-'] then if rest = [] then .ok (given, []) else .error .misuse
    else if isOption text then
      match mention? options text with
      | none => .error .misuse
      | some mention =>
        match request text mention with
        | some stop => .error stop
        | none =>
          match mention.value with
          | some value =>
            match give given mention.option value with
            | .error stop => .error stop
            | .ok given => readOptions options given rest
          | none =>
            match rest with
            | [] => .error .misuse
            | value :: rest =>
              if isOption value.toList then .error .misuse
              else
                match give given mention.option value with
                | .error stop => .error stop
                | .ok given => readOptions options given rest
    else .ok (given, argument :: rest)

def value? (given : Given) (option : OptionName) : Option String := given.lookup option

def allValues (given : Given) (option : OptionName) : List String :=
  (given.filter (·.1 = option)).map (·.2)

def number? (given : Given) (option : OptionName) : Option Nat :=
  (value? given option).bind fun text =>
    (Text.readNatural Text.maxWord text.toList).toOption

def queryArguments? (given : Given) : Option QueryArguments :=
  match value? given .data, allValues given .facet with
  | none, _ | _, [] => none
  | some data, facets =>
    some { data, facets
           query := (value? given .query).getD "*"
           principals := allValues given .principal
           numFacets := (number? given .numFacets).getD 10
           sampleSize := number? given .sampleSize
           seed := number? given .seed
           batchSize := number? given .batchSize }

def defaultSettingsPath : String := "statfacet.toml"

/-- Reads the arguments of a task. The settings' path may be given before the task or with it, and
the latter counts. -/
def parseTask (before : Given) (task : Task) (rest : List String) :
    Except ArgumentsStop Invocation :=
  match readOptions (taskOptions task) [] rest with
  | .error stop => .error stop
  | .ok (_, _ :: _) => .error .misuse
  | .ok (given, []) =>
    match queryArguments? given with
    | none => .error .misuse
    | some arguments =>
      let path := (value? given .config).or (value? before .config)
      let task :=
        match task with
        | .facets _ => .facets ((value? given .mode).bind fun text => (Mode.parse text).toOption)
        | .compare => .compare
      .ok ⟨path.getD defaultSettingsPath, arguments, task⟩

def helpTopics : List (List String) := [[], ["facets"], ["compare"], ["help"]]

end Command

def Invocation.parse (arguments : List String) : Except ArgumentsStop Invocation :=
  match Command.readOptions Command.topOptions [] arguments with
  | .error stop => .error stop
  | .ok (given, "facets" :: rest) => Command.parseTask given (.facets none) rest
  | .ok (given, "compare" :: rest) => Command.parseTask given .compare rest
  | .ok (_, "help" :: rest) =>
    if rest ∈ Command.helpTopics then .error .help else .error .misuse
  | .ok _ => .error .misuse

end VisibleFacets
