import JsonSeek.CommandLine.Run
import JsonSeek.Settings.Session

/-!
# The program

The outer layer: it gathers the surroundings, runs the command line, and prints the outcome.
-/

open JsonSeek JsonSeek.CommandLine

/-- The content of a file as far as it can be read. -/
def readContent (path : String) : IO (Except FileFault (List UInt8)) := do
  try
    return .ok (← IO.FS.readBinFile path).toList
  catch
    | .noFileOrDirectory .. => return .error .missing
    | .inappropriateType .. => return .error .isFolder
    | .permissionDenied .. => return .error .denied
    | .invalidArgument .. => return .error .nameTooLong
    | _ => return .error .isFolder

/-- Everything on the standard input. -/
def readStandardInput : IO (List UInt8) := do
  return (← (← IO.getStdin).readBinToEnd).toList

/-- The settings under the surroundings of the process. -/
def readSettings : IO (Except Settings.Fault Settings) := do
  let names := ["XDG_CONFIG_HOME", "JSCOPE_CASE_SENSITIVE", "JSCOPE_SEARCH_KEYS",
    "JSCOPE_SEARCH_VALUES", "JSCOPE_SEARCH_PATHS", "JSCOPE_FUZZY_THRESHOLD", "JSCOPE_RESULT_LIMIT",
    "JSCOPE_MAX_DEPTH", "JSCOPE_OUTPUT_LIMIT", "JSCOPE_INDENT", "JSCOPE_PREVIEW_CHARS",
    "JSCOPE_MAX_FILE_SIZE"]
  let environment ← names.filterMapM fun name => do
    return (← IO.getEnv name).map fun value => (name, value)
  let home := (← IO.getEnv "HOME").getD ""
  let place := Settings.Surroundings.configPath ⟨environment, home, []⟩
  let files ← match ← readContent place with
    | .ok bytes => pure [(place, bytes)]
    | .error _ => pure []
  return Settings.Surroundings.load ⟨environment, home, files⟩

/-- The input that a command line names. -/
def readInput (a : Arguments) (settings : Settings) : IO (Except InputFault String) := do
  match a.file with
  | none | some "" => return a.input settings (fun _ => .error .missing) (← readStandardInput)
  | some path =>
    let content ← readContent path
    return a.input settings (fun _ => content) []

/-- A duration in nanoseconds as milliseconds with two decimal places. -/
def milliseconds (nanoseconds : Nat) : String :=
  (Binary64.ofRatio false nanoseconds 1000000).hundredthsText

/-- Prints the outcome of a run that took the given time. -/
def printOutcome (outcome : Outcome) (nanoseconds : Nat) : IO UInt32 := do
  let errors ← IO.getStderr
  for event in outcome.events do
    errors.putStrLn event.line
  errors.putStr outcome.complaint
  (← IO.getStdout).putStr outcome.output
  match outcome.statistics with
  | some s => errors.putStrLn (Report.summary s (milliseconds nanoseconds))
  | none => pure ()
  return outcome.exitCode

/-- Runs the program. -/
def main (words : List String) : IO UInt32 := do
  let errors ← IO.getStderr
  match ← readSettings with
  | .error fault =>
    errors.putStrLn fault.message
    return 1
  | .ok settings =>
    match Arguments.read settings words with
    | .error .help =>
      IO.println "usage: jscope [options] --query QUERY [file]"
      return 0
    | .error (.usage fault) =>
      errors.putStrLn (usageLine fault)
      return 2
    | .ok a =>
      let input ← readInput a settings
      let onTerminal ← (← IO.getStdout).isTty
      let start ← IO.monoNanosNow
      match a.run settings onTerminal input with
      | .error (.pattern fault) =>
        errors.putStrLn fault.message
        return 1
      | .error (.overflow fault) =>
        errors.putStrLn fault.message
        return 1
      | .ok outcome =>
        let stop ← IO.monoNanosNow
        printOutcome outcome (stop - start)
