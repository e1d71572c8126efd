import JsonSeek.Binary64.Decimal
import JsonSeek.Search.Statistics

/-!
# The summary of a search

The statistics of a search as lines of text. Counts are listed in order of what is counted.
-/

namespace JsonSeek.Report

/-- A list of counts, or a dash if nothing was counted. -/
def countsText {α : Type} [ToString α] (counts : List (α × Nat)) : String :=
  if counts.isEmpty then "-"
  else String.intercalate ", " (counts.map fun (a, n) => toString a ++ "=" ++ toString n)

/-- The lines of a summary, without the time that the search took. -/
def summaryLines (s : Search.Statistics) : List String :=
  let byKind := s.byKind.mergeSort fun a b => decide (a.1 ≤ b.1)
  let byDepth := s.byDepth.mergeSort fun a b => decide (a.1 ≤ b.1)
  ["mode: " ++ s.mode,
    "matches: " ++ toString s.total ++ (if s.truncated then " (truncated)" else ""),
    "by type: " ++ countsText byKind,
    "by depth: " ++ countsText byDepth,
    "max depth: " ++ toString s.deepest]

/-- The summary of a search with the text of the time that it took in milliseconds. -/
def summary (s : Search.Statistics) (time : String) : String :=
  String.intercalate "\n" (summaryLines s ++ ["time: " ++ time ++ " ms"])

end JsonSeek.Report
