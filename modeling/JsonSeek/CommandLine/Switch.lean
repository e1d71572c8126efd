import JsonSeek.Search.Options
import JsonSeek.Value.Basic

/-!
# Switches

The switches that the command line knows, how they are spelled, and which of them take a value.
-/

namespace JsonSeek.CommandLine

/-- A switch of the command line. -/
inductive Switch
  | help
  | query
  | mode
  | caseSensitive
  | noKeys
  | noValues
  | paths
  | kind
  | maxDepth
  | threshold
  | maxResults
  | ancestors
  | prune
  | compact
  | format
  | stats
  | limit
  | verbose
deriving DecidableEq

namespace Switch

/-- All switches. -/
def all : List Switch :=
  [help, query, mode, caseSensitive, noKeys, noValues, paths, kind, maxDepth, threshold, maxResults,
    ancestors, prune, compact, format, stats, limit, verbose]

/-- The spellings of a switch. -/
def names : Switch → List String
  | help => ["-h", "--help"]
  | query => ["--query", "-q"]
  | mode => ["--mode", "-m"]
  | caseSensitive => ["--case-sensitive", "-c"]
  | noKeys => ["--no-keys"]
  | noValues => ["--no-values"]
  | paths => ["--paths"]
  | kind => ["--type", "-t"]
  | maxDepth => ["--max-depth"]
  | threshold => ["--threshold"]
  | maxResults => ["--max-results", "-n"]
  | ancestors => ["--ancestors"]
  | prune => ["--prune", "-p"]
  | compact => ["--compact"]
  | format => ["--format", "-f"]
  | stats => ["--stats", "-s"]
  | limit => ["--limit"]
  | verbose => ["--verbose", "-v"]

/-- Whether a switch takes a value. -/
def takesValue : Switch → Bool
  | query | mode | kind | maxDepth | threshold | maxResults | format | limit => true
  | _ => false

/-- How messages name a switch. -/
def title (s : Switch) : String := String.intercalate "/" s.names

/-- The names of the output formats. -/
def formatNames : List String := ["text", "json", "csv", "paths"]

/-- The values that a switch is restricted to, if it is. -/
def choices? : Switch → Option (List String)
  | mode => some (Search.Mode.all.map Search.Mode.name)
  | kind => some (Kind.all.map Kind.name)
  | format => some formatNames
  | _ => none

/-- Every spelling with the switch that it means. -/
def spellings : List (String × Switch) := all.flatMap fun s => s.names.map fun name => (name, s)

/-- The switch of a spelling. -/
def ofName? (name : String) : Option Switch := spellings.lookup name

/-- The switch that a single letter means. -/
def ofLetter? (c : Char) : Option Switch := ofName? (String.ofList ['-', c])

end Switch

end JsonSeek.CommandLine
