/-!
# Reading strings

Strings between double quotes have escapes, strings between single quotes have none. Both may stand
between three quotes instead of one; then they can hold line feeds, and one line feed behind the
opening quotes does not count. Control characters have to be escaped, the tab apart. What follows is
returned with the string.
-/

namespace JsonSeek.Toml

/-- Whether a character is a blank within a line. -/
def isLineBlank (c : Char) : Bool := c == ' ' || c == '\t'

/-- Whether a character may not stand in a text within a line. -/
def isForbidden (c : Char) : Bool := (c.toNat < 32 && c != '\t') || c.toNat == 127

/-- Whether a character may not stand in a string as it is. -/
def isForbiddenIn (manyLines : Bool) (c : Char) : Bool :=
  isForbidden c && !(manyLines && c == '\n')

/-- The quotes, two at most, that stand before the closing three. -/
def extraQuotes (quote : Char) (s : List Char) : List Char × List Char :=
  match s with
  | a :: b :: rest =>
    if a = quote then if b = quote then ([quote, quote], rest) else ([quote], b :: rest)
    else ([], s)
  | [a] => if a = quote then ([quote], []) else ([], s)
  | [] => ([], s)

/-- What follows the end of a string within quotes whose next character is such a quote. The first
part is what still belongs to the string. -/
def closing? (quote : Char) (manyLines : Bool) (rest : List Char) :
    Option (List Char × List Char) :=
  if manyLines then
    match rest with
    | a :: b :: rest => if a = quote && b = quote then some (extraQuotes quote rest) else none
    | _ => none
  else some ([], rest)

/-- Puts a character in front of a string that was read. -/
def pushChar (c : Char) (found : Option (List Char × List Char)) : Option (List Char × List Char) :=
  found.map fun (s, rest) => (c :: s, rest)

/-- The rest of a string without escapes. -/
def readLiteral (manyLines : Bool) : List Char → Option (List Char × List Char)
  | [] => none
  | c :: rest =>
    if c = '\'' then
      match closing? '\'' manyLines rest with
      | some found => some found
      | none => pushChar c (readLiteral manyLines rest)
    else if isForbiddenIn manyLines c then none
    else pushChar c (readLiteral manyLines rest)

/-- The character that a letter behind a backslash means. -/
def escaped? : Char → Option Char
  | 'b' => some '\x08'
  | 't' => some '\t'
  | 'n' => some '\n'
  | 'f' => some '\x0c'
  | 'r' => some '\r'
  | '"' => some '"'
  | '\\' => some '\\'
  | _ => none

/-- The value of a hexadecimal digit. -/
def hexValue? (c : Char) : Option Nat :=
  if c.isDigit then some (c.toNat - 48)
  else if 'a' ≤ c && c ≤ 'f' then some (c.toNat - 87)
  else if 'A' ≤ c && c ≤ 'F' then some (c.toNat - 55)
  else none

/-- The character of the code point that hexadecimal digits name. -/
def hexChar? (digits : List Char) : Option Char := do
  let values ← digits.mapM hexValue?
  let n := values.foldl (fun n d => 16 * n + d) 0
  if n.isValidChar then some (Char.ofNat n) else none

/-- What of a string is skipped. -/
inductive Gap
  /-- Nothing is skipped. -/
  | closed
  /-- Blanks are skipped, and a line feed has to follow them. -/
  | toLineEnd
  /-- Blanks and line feeds are skipped. -/
  | toText
deriving DecidableEq

/-- The rest of a string with escapes. A backslash at the end of a line hides the blanks and line
feeds behind it. -/
def readEscaped (manyLines : Bool) (gap : Gap) : List Char → Option (List Char × List Char)
  | [] => none
  | c :: rest =>
    if gap = .toLineEnd then
      if isLineBlank c then readEscaped manyLines .toLineEnd rest
      else if c = '\n' then readEscaped manyLines .toText rest
      else none
    else if gap = .toText && (isLineBlank c || c == '\n') then readEscaped manyLines .toText rest
    else if c = '"' then
      match closing? '"' manyLines rest with
      | some found => some found
      | none => pushChar c (readEscaped manyLines .closed rest)
    else if c = '\\' then
      match rest with
      | 'u' :: a :: b :: c :: d :: rest =>
        (hexChar? [a, b, c, d]).bind fun e => pushChar e (readEscaped manyLines .closed rest)
      | 'U' :: a :: b :: c :: d :: e :: f :: g :: h :: rest =>
        (hexChar? [a, b, c, d, e, f, g, h]).bind fun e =>
          pushChar e (readEscaped manyLines .closed rest)
      | d :: rest =>
        if manyLines && isLineBlank d then readEscaped manyLines .toLineEnd rest
        else if manyLines && d == '\n' then readEscaped manyLines .toText rest
        else (escaped? d).bind fun e => pushChar e (readEscaped manyLines .closed rest)
      | [] => none
    else if isForbiddenIn manyLines c then none
    else pushChar c (readEscaped manyLines .closed rest)

/-- The text behind a line feed that may be missing. -/
def skipLineFeed : List Char → List Char
  | '\n' :: rest => rest
  | s => s

/-- A string on one line. -/
def readLineString (s : List Char) : Option (String × List Char) :=
  let found := match s with
    | '"' :: rest => readEscaped false .closed rest
    | '\'' :: rest => readLiteral false rest
    | _ => none
  found.map fun (s, rest) => (String.ofList s, rest)

/-- A string. -/
def readString (s : List Char) : Option (String × List Char) :=
  match s with
  | '"' :: '"' :: '"' :: rest =>
    (readEscaped true .closed (skipLineFeed rest)).map fun (s, rest) => (String.ofList s, rest)
  | '\'' :: '\'' :: '\'' :: rest =>
    (readLiteral true (skipLineFeed rest)).map fun (s, rest) => (String.ofList s, rest)
  | _ => readLineString s

end JsonSeek.Toml
