import JsonSeek.Search.Options
import JsonSeek.Search.Result

/-!
# Marking matches

What a query finds in a text is put between marks. Path queries select nodes and mark nothing, and
neither does an empty query. A result is marked by the spans that were recorded with it.
-/

namespace JsonSeek.Report

/-- A query that is to be marked in texts. -/
structure Highlighter where
  query : String
  mode : Search.Mode := .text .simple
  caseSensitive : Bool := false
  threshold : Binary64 := Match.defaultThreshold

/-- A text with everything marked that the query finds in it. -/
def Highlighter.mark (h : Highlighter) (openMark closeMark text : String) :
    Except Match.PatternFault String :=
  match h.mode with
  | .jsonPath => .ok text
  | .text mode =>
    if h.query.isEmpty || text.isEmpty then .ok text
    else
      match Match.Matcher.prepare mode h.query h.caseSensitive h.threshold with
      | .error fault => .error fault
      | .ok m => m.highlight text openMark closeMark

end JsonSeek.Report

namespace JsonSeek.Search

/-- The text recorded with a result, its recorded spans marked. -/
def Result.marked? (r : Result) (openMark closeMark : String) : Option String :=
  r.hits.text.map fun text =>
    if r.hits.positions.isEmpty then text
    else Match.wrapSpans text openMark closeMark r.hits.positions

end JsonSeek.Search
