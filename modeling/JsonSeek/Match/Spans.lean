/-!
# Marking spans of a text

Spans are pairs of offsets. `wrapSpans` puts marks around them: spans that overlap or touch are
marked as one, empty and reversed ones are dropped. An offset below zero counts from the end of
the text, and one beyond the end stands for the end.
-/

namespace JsonSeek.Match

/-- A part of a text, from one offset up to another. -/
structure Span where
  start : Int
  stop : Int
deriving DecidableEq

/-- Whether a span comes no later than another one: by start, then by end. -/
def Span.notAfter (a b : Span) : Bool :=
  a.start < b.start || (a.start == b.start && a.stop ≤ b.stop)

/-- Joins a span with those behind it, in order of their starts, that overlap or touch it. -/
def joinFrom (current : Span) : List Span → List Span
  | [] => [current]
  | next :: rest =>
    if next.start ≤ current.stop then joinFrom ⟨current.start, max next.stop current.stop⟩ rest
    else current :: joinFrom next rest

/-- The spans to be marked, in order and apart from each other. -/
def joinSpans (spans : List Span) : List Span :=
  match (spans.mergeSort Span.notAfter).filter (fun s => s.start < s.stop) with
  | [] => []
  | first :: rest => joinFrom first rest

/-- The offset in a text of the given length that an integer means. -/
def offsetIn (length : Nat) (i : Int) : Nat :=
  if i < 0 then (length + i).toNat else min i.toNat length

/-- The characters between two offsets. -/
def cut (text : List Char) (start stop : Int) : List Char :=
  let first := offsetIn text.length start
  let last := offsetIn text.length stop
  (text.drop first).take (last - first)

/-- The text from an offset on, with the given spans marked. -/
def markFrom (text opening closing : List Char) (cursor : Int) : List Span → List Char
  | [] => cut text cursor text.length
  | span :: rest =>
    cut text cursor span.start ++ opening ++ cut text span.start span.stop ++ closing ++
      markFrom text opening closing span.stop rest

/-- The text with marks around the given spans. -/
def wrapSpans (text opening closing : String) (spans : List Span) : String :=
  String.ofList (markFrom text.toList opening.toList closing.toList 0 (joinSpans spans))

end JsonSeek.Match
