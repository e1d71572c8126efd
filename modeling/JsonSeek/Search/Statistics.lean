import JsonSeek.Search.Result

/-!
# Search statistics

How many results a search found, of which kinds and at which depths. A tally counts in order of
first occurrence.
-/

namespace JsonSeek.Search

/-- Adds one to the count of a key. A new key is put at the end. -/
def countUp {α : Type} [DecidableEq α] (a : α) : List (α × Nat) → List (α × Nat)
  | [] => [(a, 1)]
  | (b, n) :: rest => if b = a then (b, n + 1) :: rest else (b, n) :: countUp a rest

/-- How often each member of a list occurs, in order of first occurrence. -/
def tally {α : Type} [DecidableEq α] (l : List α) : List (α × Nat) :=
  l.foldl (fun counts a => countUp a counts) []

/-- What is known about a search as a whole. -/
structure Statistics where
  /-- The name of the mode. -/
  mode : String
  total : Nat
  byKind : List (String × Nat)
  byDepth : List (Int × Nat)
  /-- The greatest depth that the search looked at. -/
  deepest : Int
  /-- Whether the search stopped at the limit of results. -/
  truncated : Bool

/-- The statistics of results in the order in which they were found. -/
def Statistics.ofResults (mode : String) (deepest : Nat) (truncated : Bool)
    (results : List Result) : Statistics where
  mode := mode
  total := results.length
  byKind := tally (results.map Result.kind)
  byDepth := tally (results.map Result.depth)
  deepest := deepest
  truncated := truncated

end JsonSeek.Search
