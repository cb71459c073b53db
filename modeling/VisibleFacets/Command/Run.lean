import VisibleFacets.Command.Arguments
import VisibleFacets.Command.Files
import VisibleFacets.Command.Report
import VisibleFacets.Settings.Toml
import VisibleFacets.Text.Quoted

/-!
# Running a command

Settings come from a file, then from variables, then from options, and have to be valid after each
of these layers. A run that never ends has no result. Main definitions: `Command.prepare`,
`Command.run`.
-/

namespace VisibleFacets

structure RunResult where
  status : Nat
  output : List Char := []
  message : Option String := none
  deriving DecidableEq, Repr

namespace Command

inductive Failure where
  | settings (path : String) (fault : SettingsFault)
  | override (fault : OverrideFault)
  | documents (path : String)
  | counting (error : Error)
  deriving DecidableEq, Repr

def Failure.message : Failure → String
  | settings path fault => fault.message path
  | override fault => fault.message
  | documents path => "Failed to load documents from " ++ String.ofList (Text.quoted path.toList)
  | counting error => error.message

def loadSettings : PathState → Except SettingsFault Settings
  | .missing => .ok {}
  | .directory => .error .unreadable
  | .file content =>
    match String.fromUTF8? content with
    | none => .error .unreadable
    | some text => Settings.load text.toList

inductive SaveFault where
  | unwritable
  | refused
  deriving DecidableEq, Repr

/-- What comes of saving the settings, and the files after it. -/
def saveSettings (files : String → PathState) (path : String) (settings : Settings) (drawn : Nat) :
    Except SaveFault Unit × (String → PathState) :=
  match settings.save? drawn with
  | none => (.error .unwritable, files)
  | some text =>
    if isStorable files path then (.ok (), store files path (String.ofList text).toUTF8)
    else (.error .refused, files)

def effectiveSettings (state : PathState) (environment : String → Option String) (path : String) :
    Except Failure Settings :=
  match loadSettings state with
  | .error fault => .error (.settings path fault)
  | .ok settings =>
    match settings.override environment with
    | (.error fault, _) => .error (.override fault)
    | (.ok (), settings) => .ok settings

def applyOptions (arguments : QueryArguments) (settings : FacetSettings) : FacetSettings :=
  { settings with
    sampleSize := arguments.sampleSize.getD settings.sampleSize
    seed := arguments.seed.or settings.seed
    batchSize := arguments.batchSize.getD settings.batchSize }

def applyMode (task : Task) (settings : FacetSettings) : FacetSettings :=
  match task with
  | .facets (some mode) => { settings with mode }
  | _ => settings

variable [Memory]

structure Prepared where
  corpus : Corpus
  query : Query
  principals : List String
  settings : FacetSettings

/-- Brings the settings to their final form and only then reads the documents. -/
def prepare (files : String → PathState) (arguments : QueryArguments) (settings : FacetSettings) :
    Except Failure Prepared :=
  let settings := applyOptions arguments settings
  match settings.validate with
  | .error error => .error (.counting error)
  | .ok () =>
    match (files arguments.data).text?.map (Corpus.load ·.toList) with
    | some (.ok corpus) =>
      .ok ⟨corpus, ⟨arguments.query, arguments.facets⟩, arguments.principals, settings⟩
    | _ => .error (.documents arguments.data)

def tableIn (prepared : Prepared) (plan : SamplePlan) (limit : Nat) (mode : Mode) :
    ExceptT Error Option FacetTable :=
  match facetsIn mode prepared.corpus.backend (.ofPrincipals prepared.principals) prepared.query
      plan none with
  | .error error => some (.error error)
  | .ok count => ((count limit).run ⟨⟨{}, []⟩, 0⟩).map Prod.fst

def comparedModes : List Mode := [.insecure, .secure, .statistical]

def perform (task : Task) (limit : Nat) (drawn : Nat) (prepared : Prepared) :
    ExceptT Error Option (List Char) :=
  let plan := prepared.settings.plan drawn
  match task with
  | .facets _ => printTable <$> tableIn prepared plan limit prepared.settings.mode
  | .compare =>
    printComparison prepared.query plan comparedModes <$>
      comparedModes.mapM (tableIn prepared plan limit)

def prepareInvocation (files : String → PathState) (environment : String → Option String)
    (invocation : Invocation) : Except Failure Prepared := do
  let settings ←
    effectiveSettings (files invocation.settingsPath) environment invocation.settingsPath
  prepare files invocation.arguments (applyMode invocation.task settings.facets)

/-- Runs an invocation; `drawn` is the seed for a run without one. -/
def execute (files : String → PathState) (environment : String → Option String) (drawn : Nat)
    (invocation : Invocation) : Option (Except Failure (List Char)) :=
  match prepareInvocation files environment invocation with
  | .error failure => some (.error failure)
  | .ok prepared =>
    (perform invocation.task invocation.arguments.numFacets drawn prepared).run.map
      (·.mapError .counting)

def versionLine : List Char := "statfacet 0.1.0\n".toList

def run (files : String → PathState) (environment : String → Option String) (drawn : Nat)
    (arguments : List String) : Option RunResult :=
  match Invocation.parse arguments with
  | .error .misuse => some { status := 2 }
  | .error .help => some { status := 0 }
  | .error .version => some { status := 0, output := versionLine }
  | .ok invocation =>
    (execute files environment drawn invocation).map fun
      | .error failure => { status := 1, message := some failure.message }
      | .ok output => { status := 0, output }

end Command

end VisibleFacets
