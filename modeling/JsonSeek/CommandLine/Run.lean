import JsonSeek.CommandLine.Arguments
import JsonSeek.CommandLine.Input
import JsonSeek.Json.Reader
import JsonSeek.Prune
import JsonSeek.Report.Excerpt
import JsonSeek.Report.Lines
import JsonSeek.Report.Summary
import JsonSeek.Search.Run

/-!
# Running the program

A run reads a document, searches it, and prints the results, an export of them, or the pruned
document. What is printed is cut to the output limit. The statistics are left to the caller to
print, since only the caller knows the time.
-/

namespace JsonSeek.CommandLine

/-- What a run does. -/
structure Outcome where
  exitCode : UInt32
  /-- The text for the standard output. -/
  output : String := ""
  /-- The text for the standard error output. -/
  complaint : String := ""
  /-- The statistics, if they are to be printed. -/
  statistics : Option Search.Statistics := none
  events : List Search.Event := []

/-- The outcome of a run without a document. -/
def Outcome.failed (message : String) : Outcome where
  exitCode := 1
  complaint := message ++ "\n"

/-- A text with a line feed, or nothing for the empty text. -/
def printed (text : String) : String := if text.isEmpty then "" else text ++ "\n"

namespace Arguments

/-- The search that a command line asks for. -/
def options (a : Arguments) : Search.Options where
  query := a.query
  mode := a.mode
  caseSensitive := a.caseSensitive
  inKeys := a.inKeys
  inValues := a.inValues
  inPaths := a.inPaths
  kinds := a.kinds
  maxDepth := a.maxDepth
  threshold := a.threshold
  withAncestors := a.withAncestors
  limit := a.maxResults

/-- The document reduced to results of a search in it. -/
def pruned (a : Arguments) (results : List Search.Result) (document : Value) : Value :=
  Prune.toPaths (if a.compact then .closed else .filled) (results.map Search.Result.segments)
    document

/-- What is printed about results, before it is cut. -/
def report (a : Arguments) (settings : Settings) (onTerminal : Bool) (document : Value)
    (results : List Search.Result) : String :=
  if a.prune then (a.pruned results document).write (.indented settings.indent.toNat)
  else
    match a.format with
    | .text =>
      let marks := if onTerminal then .colour else .ofSettings settings
      Report.resultLines marks settings.previewLength results
    | .exported format => Report.exportResults format (some settings.indent) results

/-- The report as far as the output limit allows; a limit below one does not count. -/
def limited (a : Arguments) (report : String) : String :=
  if 0 < a.limit then Report.excerpt a.limit report else report

/-- The events that are shown. -/
def shown (a : Arguments) (events : List Search.Event) : List Search.Event :=
  events.filter fun event => a.verbose || event.level = .warning

/-- Searches a document and reports what was found. -/
def runOn (a : Arguments) (settings : Settings) (onTerminal : Bool) (document : Value) :
    Except Search.Fault Outcome :=
  (Search.search a.options document).map fun found => {
    exitCode := 0
    output := printed (a.limited (a.report settings onTerminal document found.results))
    statistics := if a.stats then some found.statistics else none
    events := a.shown (found.events ++ [.complete]) }

/-- The text of the input. What is found at a path is given. -/
def input (a : Arguments) (settings : Settings)
    (contentAt : String → Except FileFault (List UInt8)) (standardInput : List UInt8) :
    Except InputFault String :=
  match a.file with
  | none | some "" => inputText standardInput
  | some path => fileText path settings.maxFileSize (contentAt path)

/-- Runs the program on its input. -/
def run (a : Arguments) (settings : Settings) (onTerminal : Bool)
    (input : Except InputFault String) : Except Search.Fault Outcome :=
  match input with
  | .error fault => .ok (.failed fault.message)
  | .ok text =>
    match Json.read text with
    | .error failure => .ok (.failed ("Error: " ++ failure.message))
    | .ok document => a.runOn settings onTerminal document

end Arguments

/-- The line that a fault of the command line is reported by. -/
def usageLine (fault : UsageFault) : String := "jscope: error: " ++ fault.message

end JsonSeek.CommandLine
