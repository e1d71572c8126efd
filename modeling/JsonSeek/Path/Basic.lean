import JsonSeek.Value.Basic

/-!
# Paths

A path is the list of steps from a document down to one of its parts. It has two spellings. The
rooted spelling starts with `$` and writes every step behind it: `.key`, `[2]`, or `['x.y']` for a
key that would be ambiguous behind a dot. The canonical spelling is the same without `$` and
without a leading dot; the empty path is the empty text.
-/

namespace JsonSeek

/-- The steps from a document to one of its parts. -/
abbrev Path := List Segment

/-- The last step of a path as it is shown: the key, or the index in brackets. -/
def Segment.label : Segment → String
  | key name => name
  | index i => "[" ++ toString i ++ "]"

namespace Path

/-- The label of a whole document. -/
def rootLabel : String := "root"

/-- Whether a character has a meaning of its own in a path. -/
def isReserved (c : Char) : Bool := c == '.' || c == '[' || c == ']' || c == '\'' || c == '"'

/-- Whether a key can be written behind a dot. -/
def isPlainKey (key : String) : Bool := !key.toList.isEmpty && !key.toList.any isReserved

/-- The quote around a key in brackets: double if the key holds a single quote. -/
def keyQuote (key : String) : Char := if key.toList.contains '\'' then '"' else '\''

/-- One step as it follows other steps. -/
def stepText : Segment → List Char
  | .index i => '[' :: ((toString i).toList ++ [']'])
  | .key name =>
    if isPlainKey name then '.' :: name.toList
    else '[' :: keyQuote name :: (name.toList ++ [keyQuote name, ']'])

/-- The steps of a path, one behind the other. -/
def stepsText (path : Path) : List Char := path.flatMap stepText

/-- The spelling with `$` for the document. -/
def rooted (path : Path) : String := String.ofList ('$' :: stepsText path)

/-- The spelling without `$`. -/
def canonical (path : Path) : String :=
  String.ofList <| match stepsText path with
    | '.' :: rest => rest
    | steps => steps

/-- The label of the part that a path leads to. -/
def label (path : Path) : String :=
  match path.getLast? with
  | some step => step.label
  | none => rootLabel

/-- The rooted spelling of every part on the way, the document first, the end left out. -/
def ancestors (path : Path) : List String :=
  (List.range path.length).map fun n => rooted (path.take n)

end Path

end JsonSeek
