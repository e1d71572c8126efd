import JsonSeek.Binary64.Basic

/-!
# Subsequence search

The text is read once. Every character that equals the next awaited character of the query is taken.
The score is the share of the query that was found in this way.
-/

namespace JsonSeek.Match

/-- The offsets of the characters taken, the first character having the given offset. -/
def takenFrom (offset : Nat) : (text query : List Char) → List Nat
  | [], _ => []
  | _, [] => []
  | c :: text, d :: query =>
    if c = d then offset :: takenFrom (offset + 1) text query
    else takenFrom (offset + 1) text (d :: query)

/-- The offsets of the characters of a text that a query takes. -/
def taken (text query : List Char) : List Nat := takenFrom 0 text query

/-- The share of the query that is found in order in the text; zero for an empty query. -/
def fuzzyScore (text query : List Char) : Binary64 :=
  if query.isEmpty then .zero else .ofRatio false (taken text query).length query.length

/-- Whether enough of the query is found. An empty query is never found. -/
def fuzzyMatches (text query : List Char) (threshold : Binary64) : Bool :=
  !query.isEmpty && Binary64.ble threshold (fuzzyScore text query)

end JsonSeek.Match
