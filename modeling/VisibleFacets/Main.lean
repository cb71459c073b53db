import VisibleFacets.Command.Run

/-!
# The program

Reads the files and variables that a command line names, and prints what the command gives.
-/

namespace VisibleFacets

def readPath (path : String) : IO PathState := do
  try
    return .file (← IO.FS.readBinFile path)
  catch
    | .noFileOrDirectory .. => return .missing
    | _ => return .directory

def readFiles (arguments : List String) : IO (String → PathState) :=
  match Invocation.parse arguments with
  | .error _ => return fun _ => .missing
  | .ok invocation => do
    let settings ← readPath invocation.settingsPath
    let data ← readPath invocation.arguments.data
    return fun path => if path = invocation.settingsPath then settings else data

def readVariables : IO (String → Option String) := do
  let sampleSize ← IO.getEnv Settings.sampleSizeVariable
  let seed ← IO.getEnv Settings.seedVariable
  return fun name =>
    if name = Settings.sampleSizeVariable then sampleSize
    else if name = Settings.seedVariable then seed
    else none

end VisibleFacets

open VisibleFacets

def main (arguments : List String) : IO UInt32 := do
  let drawn ← IO.rand 0 Toml.maxInteger
  let some result := Command.run (← readFiles arguments) (← readVariables) drawn arguments
    | return 1
  (← IO.getStdout).putStr (String.ofList result.output)
  match result.message with
  | some message => (← IO.getStderr).putStrLn ("Error: " ++ message)
  | none => pure ()
  return UInt32.ofNat result.status
