import JsonSeek.Json.Writer
import JsonSeek.Report.Csv
import JsonSeek.Search.Result
import JsonSeek.Text.Quoted

/-!
# Exporting results

Results are exported as JSON records, as a table of comma-separated values, or as a list of paths.
-/

namespace JsonSeek.Report

/-- The forms in which results are exported. -/
inductive ExportFormat
  | json
  | csv
  | paths
deriving DecidableEq

namespace ExportFormat

/-- The format of the given name. -/
def ofName? : String → Option ExportFormat
  | "json" => some json
  | "csv" => some csv
  | "paths" => some paths
  | _ => none

/-- The wording for a name that no format has. -/
def unknownMessage (name : String) : String :=
  "Unknown export format: " ++ Text.quoted name ++ ". Use one of json, csv, paths"

end ExportFormat

/-- The layout of exported JSON text: indented by a width, or on one line if there is none. -/
def layoutOf (indent : Option Int) : Json.Layout :=
  match indent with
  | some width => .indented width.toNat
  | none => .spaced

/-- A span as a pair of offsets. -/
def spanValue (span : Match.Span) : Value := .arr [.int span.start, .int span.stop]

/-- A step of a path as a string or an integer. -/
def segmentValue : Segment → Value
  | .key name => .str name
  | .index i => .int i

/-- What is recorded about the texts that matched. -/
def hitsValue (hits : Search.Hits) : Value :=
  .obj [
    ("in_key", .bool hits.inKey),
    ("in_value", .bool hits.inValue),
    ("in_path", .bool hits.inPath),
    ("matched_text", match hits.text with
      | some text => .str text
      | none => .null),
    ("positions", .arr (hits.positions.map spanValue))]

/-- The record of a result. The ancestors are left out unless they are known. -/
def resultValue (r : Search.Result) : Value :=
  .obj ([
    ("path", .str r.path),
    ("json_path", .str r.jsonPath),
    ("key", .str r.key),
    ("value", r.value),
    ("parent_path", .str r.parentPath),
    ("depth", .int r.depth),
    ("type", .str r.kind),
    ("score", .float r.score),
    ("matches", hitsValue r.hits),
    ("segments", .arr (r.segments.map segmentValue))] ++
    match r.ancestors with
    | some paths => [("context", .obj [("ancestors", .arr (paths.map .str))])]
    | none => [])

/-- The names of the columns of a table of results. -/
def tableHeader : List String := ["Path", "Key", "Type", "Value", "Score"]

/-- The row of a result in a table. -/
def tableRow (r : Search.Result) : List String :=
  [r.jsonPath, r.key, r.kind, r.value.write .spaced, r.score.generalText]

/-- A text without the line feeds at its end. -/
def dropFinalNewlines (text : List Char) : List Char :=
  (text.reverse.dropWhile (· == '\n')).reverse

/-- Results in an export format. The indentation concerns JSON only. -/
def exportResults (format : ExportFormat) (indent : Option Int) (results : List Search.Result) :
    String :=
  match format with
  | .json => (Value.arr (results.map resultValue)).write (layoutOf indent)
  | .csv => String.ofList (dropFinalNewlines (Csv.write (tableHeader :: results.map tableRow)))
  | .paths => String.intercalate "\n" (results.map Search.Result.jsonPath)

end JsonSeek.Report
