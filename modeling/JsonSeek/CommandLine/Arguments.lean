import JsonSeek.CommandLine.Word
import JsonSeek.Report.Export
import JsonSeek.Text.Numeral

/-!
# The arguments of the program

`Arguments.read` reads a command line. What it leaves open is taken from the settings. The query is
required, and one file can be named.
-/

namespace JsonSeek.CommandLine

/-- How results are printed. -/
inductive Format
  | text
  | exported (format : Report.ExportFormat)
deriving DecidableEq

/-- The name of a format. -/
def Format.name : Format → String
  | text => "text"
  | exported .json => "json"
  | exported .csv => "csv"
  | exported .paths => "paths"

/-- What a command line asks for. -/
structure Arguments where
  file : Option String
  query : String
  mode : Search.Mode
  caseSensitive : Bool
  inKeys : Bool
  inValues : Bool
  inPaths : Bool
  kinds : Option (List String)
  maxDepth : Option Int
  threshold : Binary64
  maxResults : Int
  withAncestors : Bool
  prune : Bool
  compact : Bool
  format : Format
  stats : Bool
  limit : Int
  verbose : Bool

/-- The arguments of an empty command line. -/
def Arguments.ofSettings (settings : Settings) : Arguments where
  file := none
  query := ""
  mode := .text .simple
  caseSensitive := settings.caseSensitive
  inKeys := settings.searchKeys
  inValues := settings.searchValues
  inPaths := settings.searchPaths
  kinds := none
  maxDepth := settings.maxDepth
  threshold := settings.fuzzyThreshold
  maxResults := settings.resultLimit
  withAncestors := false
  prune := false
  compact := false
  format := .text
  stats := false
  limit := settings.outputLimit
  verbose := false

/-- A command line that was read in part. -/
structure Draft where
  arguments : Arguments
  /-- Whether a query was given. -/
  hasQuery : Bool := false
  /-- Whether the place of the file is taken. -/
  isPlaced : Bool := false
  /-- Words that have no meaning. -/
  extras : List String := []

/-- Why reading a command line comes to an end. -/
inductive Stop
  | help
  | usage (fault : UsageFault)

namespace Draft

/-- Adds a word that has no meaning. -/
def addExtra (d : Draft) (word : String) : Draft := { d with extras := d.extras ++ [word] }

/-- Names the file. -/
def place (d : Draft) (file : Option String) : Draft :=
  { d with arguments := { d.arguments with file := file }, isPlaced := true }

/-- Sets a switch that takes no value. -/
def setFlag (d : Draft) (s : Switch) : Except Stop Draft :=
  let a := d.arguments
  let changed (a : Arguments) : Except Stop Draft := .ok { d with arguments := a }
  match s with
  | .help => .error .help
  | .caseSensitive => changed { a with caseSensitive := true }
  | .noKeys => changed { a with inKeys := false }
  | .noValues => changed { a with inValues := false }
  | .paths => changed { a with inPaths := true }
  | .ancestors => changed { a with withAncestors := true }
  | .prune => changed { a with prune := true }
  | .compact => changed { a with compact := true }
  | .stats => changed { a with stats := true }
  | .verbose => changed { a with verbose := true }
  | _ => changed a

/-- Sets switches that take no value, one after the other. -/
def setFlags (d : Draft) : List Switch → Except Stop Draft
  | [] => .ok d
  | s :: rest =>
    match d.setFlag s with
    | .error stop => .error stop
    | .ok d => d.setFlags rest

/-- The format of the given name. -/
def formatOf (name : String) : Format :=
  match Report.ExportFormat.ofName? name with
  | some format => .exported format
  | none => .text

/-- Sets a switch to a value. -/
def setValue (d : Draft) (s : Switch) (value : String) : Except Stop Draft :=
  let a := d.arguments
  let changed (a : Arguments) : Except Stop Draft := .ok { d with arguments := a }
  let chosen (change : Arguments) : Except Stop Draft :=
    if (s.choices?.getD []).contains value then changed change
    else .error (.usage (.noChoice s value))
  let integer (change : Int → Arguments) : Except Stop Draft :=
    match Text.readInt? value.toList with
    | some n => changed (change n)
    | none => .error (.usage (.noInteger s value))
  match s with
  | .query => .ok { d with arguments := { a with query := value }, hasQuery := true }
  | .mode => chosen { a with mode := (Search.Mode.ofName? value).getD a.mode }
  | .kind => chosen { a with kinds := some (a.kinds.getD [] ++ [value]) }
  | .format => chosen { a with format := formatOf value }
  | .maxDepth => integer fun n => { a with maxDepth := some n }
  | .maxResults => integer fun n => { a with maxResults := n }
  | .limit => integer fun n => { a with limit := n }
  | .threshold =>
    match Text.readBinary64? value.toList with
    | some x => changed { a with threshold := x }
    | none => .error (.usage (.noNumber s value))
  | _ => changed a

/-- Reads words one after the other. -/
def readWords (d : Draft) : List Word → Except Stop Draft
  | [] => .ok d
  | .unknown text :: rest => (d.addExtra text).readWords rest
  | .plain text :: rest =>
    if d.isPlaced then (d.addExtra text).readWords rest
    else
      match rest with
      | .dashes :: rest => (d.place (some text)).readWords rest
      | rest => (d.place (some text)).readWords rest
  | .dashes :: rest =>
    if d.isPlaced then (d.addExtra "--").readWords rest
    else
      match rest with
      | .plain text :: rest => (d.place (some text)).readWords rest
      | rest => (d.place none).readWords rest
  | .switch s short attached :: rest =>
    match joined s short attached with
    | .error fault => .error (.usage fault)
    | .ok ⟨flags, ending⟩ =>
      match ending, rest with
      | .complete, rest => do (← d.setFlags flags).readWords rest
      | .value s text, rest => do
        (← (← d.setFlags flags).setValue s (String.ofList text)).readWords rest
      | .awaits s, .plain text :: rest => do (← (← d.setFlags flags).setValue s text).readWords rest
      | .awaits s, _ => .error (.usage (.missingValue s))

end Draft

/-- Reads a command line. -/
def Arguments.read (settings : Settings) (words : List String) : Except Stop Arguments := do
  let words ← (classifyAll words).mapError .usage
  let d ← Draft.readWords { arguments := .ofSettings settings } words
  if !d.hasQuery then throw (.usage .missingQuery)
  else if !d.extras.isEmpty then throw (.usage (.unrecognized d.extras))
  else return d.arguments

end JsonSeek.CommandLine
