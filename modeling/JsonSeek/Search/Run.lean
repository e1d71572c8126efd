import JsonSeek.Query.Select
import JsonSeek.Search.Event
import JsonSeek.Search.Statistics
import JsonSeek.Search.TextScan

/-!
# Searching a document

`search` runs a text search or a path query, ranks what was found by score, and reports the course.
Results of equal score stay in the order in which they were found. A query that is no path query and
a malformed pattern find nothing and are reported as warnings.
-/

namespace JsonSeek.Search

/-- Why a search yields nothing at all. -/
inductive Fault
  | pattern (fault : Match.PatternFault)
  | overflow (overflow : Query.Overflow)

/-- What a search yields. -/
structure Response where
  results : List Result
  statistics : Statistics
  events : List Event

/-- The first nodes of a list, at most as many as the limit says, and whether any were left out. -/
def cutAt (limit : Int) (nodes : List Node) : List Node × Bool :=
  (nodes.take limit.toNat, decide (max limit 0 < nodes.length))

/-- The result for a node that a path query selects. -/
def selected (o : Options) (node : Node) : Result :=
  .ofNode node Match.fullScore { inPath := true } o.withAncestors

/-- The nodes that a path query selects, up to the limit. -/
def scanPaths (o : Options) (document : Value) : Except Fault (Scan × List Event) :=
  match Query.run o.query document with
  | .error (.unrooted _) => .ok (⟨[], 0, false⟩, [.invalidQuery])
  | .error (.overflow e) => .error (.overflow e)
  | .ok nodes =>
    let (kept, truncated) := cutAt o.limit nodes
    let deepest := kept.foldl (fun deepest node => max deepest node.depth) 0
    .ok (⟨kept.map (selected o), deepest, truncated⟩, [])

/-- The course of a search by text. -/
def textEvents (m : Match.Matcher) (scan : Scan) : List Event :=
  (if m.isMalformed then [.malformedPattern] else []) ++
    (if scan.truncated then [.limitReached] else [])

/-- Finds the results of a search in the order of the document. -/
def scan (o : Options) (document : Value) : Except Fault (Scan × List Event) :=
  match o.mode with
  | .jsonPath => scanPaths o document
  | .text mode =>
    match Match.Matcher.prepare mode o.query o.caseSensitive o.threshold with
    | .error fault => .error (.pattern fault)
    | .ok m =>
      match scanTexts m o document with
      | .error fault => .error (.pattern fault)
      | .ok scan => .ok (scan, textEvents m scan)

/-- Results in order of their scores, the highest first. -/
def rank (results : List Result) : List Result :=
  results.mergeSort fun a b => Binary64.ble b.score a.score

/-- Searches a document. -/
def search (o : Options) (document : Value) : Except Fault Response :=
  match scan o document with
  | .error fault => .error fault
  | .ok (scan, events) =>
    .ok {
      results := rank scan.results
      statistics := .ofResults o.mode.name scan.deepest scan.truncated scan.results
      events := events ++ [.finished] }

end JsonSeek.Search
