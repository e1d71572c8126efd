import JsonSeek.Binary64.Decimal
import JsonSeek.Text.Quoted
import JsonSeek.Value.Basic

/-!
# Writing JSON text

`Value.write` renders a value in one of three layouts. Characters beyond ASCII are written as they
are; in strings only the quote, the backslash and the control characters below the space are
escaped. Doubles are written with the fewest digits that read back.
-/

namespace JsonSeek.Json

/-- How the parts of containers are set apart: not at all, by blanks, or by line breaks with a given
width of indentation. -/
inductive Layout
  | compact
  | spaced
  | indented (width : Nat)

/-- The text between two parts of a container, line breaks apart. -/
def Layout.comma : Layout → List Char
  | spaced => [',', ' ']
  | compact | indented _ => [',']

/-- The text between a key and its value. -/
def Layout.colon : Layout → List Char
  | compact => [':']
  | spaced | indented _ => [':', ' ']

/-- The line break in front of a part at the given depth. -/
def Layout.lineBreak : Layout → (depth : Nat) → List Char
  | indented width, depth => '\n' :: List.replicate (width * depth) ' '
  | compact, _ | spaced, _ => []

/-- A character as it stands inside a string. -/
def escapeChar (c : Char) : List Char :=
  if c == '"' || c == '\\' then ['\\', c]
  else if c == '\n' then ['\\', 'n']
  else if c == '\r' then ['\\', 'r']
  else if c == '\t' then ['\\', 't']
  else if c == '\x0c' then ['\\', 'f']
  else if c == '\x08' then ['\\', 'b']
  else if c.toNat < 0x20 then '\\' :: 'u' :: Text.hexDigits 4 c.toNat
  else [c]

/-- A string with its quotes. -/
def writeString (s : String) : List Char := '"' :: (s.toList.flatMap escapeChar ++ ['"'])

/-- A double; the special values are words. -/
def writeBinary64 : Binary64 → List Char
  | .nan => "NaN".toList
  | .infinite negative => if negative then "-Infinity".toList else "Infinity".toList
  | x => x.text.toList

/-- The parts of a container between its brackets. -/
def enclose (layout : Layout) (depth : Nat) (opening closing : Char) (parts : List (List Char)) :
    List Char :=
  match parts with
  | [] => [opening, closing]
  | _ =>
    let inner := layout.lineBreak (depth + 1)
    opening :: (inner ++ List.intercalate (layout.comma ++ inner) parts ++
      layout.lineBreak depth ++ [closing])

mutual

/-- The text of a value that stands at the given depth. -/
def writeAt (layout : Layout) (depth : Nat) : Value → List Char
  | .null => "null".toList
  | .bool b => if b then "true".toList else "false".toList
  | .int n => (toString n).toList
  | .float x => writeBinary64 x
  | .str s => writeString s
  | .arr items => enclose layout depth '[' ']' (itemTexts layout (depth + 1) items)
  | .obj fields => enclose layout depth '\x7b' '\x7d' (fieldTexts layout (depth + 1) fields)

/-- The texts of the elements of an array. -/
def itemTexts (layout : Layout) (depth : Nat) : List Value → List (List Char)
  | [] => []
  | v :: rest => writeAt layout depth v :: itemTexts layout depth rest

/-- The texts of the fields of an object. -/
def fieldTexts (layout : Layout) (depth : Nat) : List (String × Value) → List (List Char)
  | [] => []
  | (key, v) :: rest =>
    (writeString key ++ layout.colon ++ writeAt layout depth v) :: fieldTexts layout depth rest

end

end JsonSeek.Json

namespace JsonSeek

/-- The JSON text of a value. -/
def Value.write (layout : Json.Layout) (v : Value) : String :=
  String.ofList (Json.writeAt layout 0 v)

end JsonSeek
