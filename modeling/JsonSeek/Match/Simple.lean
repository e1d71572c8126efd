import JsonSeek.Match.Spans

/-!
# Substring search

The occurrences are found from left to right; the search goes on behind the last one, so that they
do not overlap.
-/

namespace JsonSeek.Match

/-- Whether the query stands somewhere in the text. -/
def occursIn (query : List Char) : List Char → Bool
  | [] => query.isEmpty
  | c :: rest => query.isPrefixOf (c :: rest) || occursIn query rest

/-- The occurrences of a query in a text whose first character has the given offset. The first
`skip` characters belong to an earlier occurrence. -/
def occurrencesFrom (query : List Char) (offset skip : Nat) : List Char → List Span
  | [] => []
  | c :: rest =>
    match skip with
    | skip + 1 => occurrencesFrom query (offset + 1) skip rest
    | 0 =>
      if query.isPrefixOf (c :: rest) then
        ⟨offset, (offset + query.length : Nat)⟩ ::
          occurrencesFrom query (offset + 1) (query.length - 1) rest
      else occurrencesFrom query (offset + 1) 0 rest

/-- The occurrences of a query in a text. An empty query has none to show. -/
def occurrences (query text : List Char) : List Span :=
  if query.isEmpty then [] else occurrencesFrom query 0 0 text

end JsonSeek.Match
