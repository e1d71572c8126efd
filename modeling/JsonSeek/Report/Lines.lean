import JsonSeek.Json.Writer
import JsonSeek.Report.Highlight

/-!
# Results as lines

One line for each result: its path, its kind, its score, and the text that matched or else a preview
of the value.
-/

namespace JsonSeek.Report

/-- The marks around matches. -/
structure Marks where
  openMark : String
  closeMark : String

/-- The marks for a terminal with colours. -/
def Marks.colour : Marks := ⟨"\x1b[1;33m", "\x1b[0m"⟩

/-- The marks that the settings ask for. -/
def Marks.ofSettings (settings : Settings) : Marks := ⟨settings.openMark, settings.closeMark⟩

/-- The beginning of a text up to an offset; one below zero counts from the end. -/
def firstPart (text : List Char) (stop : Int) : List Char := Match.cut text 0 stop

/-- The JSON text of a value on one line, cut to a length. An ellipsis stands for what is missing if
there is room for it. -/
def preview (length : Int) (v : Value) : String :=
  let text := (v.write .spaced).toList
  if text.length ≤ length then String.ofList text
  else if length ≤ 3 then String.ofList (firstPart text length)
  else String.ofList (firstPart text (length - 3) ++ ['.', '.', '.'])

/-- The line for a result. -/
def resultLine (marks : Marks) (previewLength : Int) (r : Search.Result) : String :=
  let detail := (r.marked? marks.openMark marks.closeMark).getD (preview previewLength r.value)
  String.intercalate "  " [r.jsonPath, r.kind, r.score.generalText, detail]

/-- The lines for results. -/
def resultLines (marks : Marks) (previewLength : Int) (results : List Search.Result) : String :=
  String.intercalate "\n" (results.map (resultLine marks previewLength))

end JsonSeek.Report
