import JsonSeek.Toml.Entry
import JsonSeek.Toml.Moment
import JsonSeek.Toml.Number
import JsonSeek.Toml.Quotation

/-!
# Reading TOML

`Toml.read` yields the fields of a document, or nothing if the text is no TOML document. A carriage
return counts only together with a line feed.
-/

namespace JsonSeek.Toml

/-- The text with line feeds for its line ends. -/
def withLineFeeds : List Char → List Char
  | '\r' :: '\n' :: rest => '\n' :: withLineFeeds rest
  | c :: rest => c :: withLineFeeds rest
  | [] => []

/-- The text behind blanks. -/
def skipBlanks (s : List Char) : List Char := s.dropWhile isLineBlank

/-- The text behind blanks, line feeds and comments. -/
def skipSpace (inComment : Bool) : List Char → Option (List Char)
  | [] => some []
  | c :: rest =>
    if inComment then
      if c = '\n' then skipSpace false rest
      else if isForbidden c then none
      else skipSpace true rest
    else if isLineBlank c || c == '\n' then skipSpace false rest
    else if c = '#' then skipSpace true rest
    else some (c :: rest)

/-- The text behind a comment that may be missing; the line feed stays. -/
def skipComment (s : List Char) : Option (List Char) :=
  match s with
  | '#' :: rest =>
    if (rest.takeWhile (· != '\n')).any isForbidden then none else some (rest.dropWhile (· != '\n'))
  | _ => some s

/-! ## Keys -/

/-- Whether a character can stand in a key without quotes. -/
def isBareKeyChar (c : Char) : Bool := c.isAlphanum || c == '-' || c == '_'

/-- One part of a key. -/
def readKeyPart (s : List Char) : Option (String × List Char) :=
  match s.takeWhile isBareKeyChar with
  | [] => readLineString s
  | name => some (String.ofList name, s.dropWhile isBareKeyChar)

/-- The parts of a key behind the first one. Every round uses up a dot. -/
def readMoreKeys : (fuel : Nat) → List Char → Option (List String × List Char)
  | 0, s => some ([], s)
  | fuel + 1, s =>
    match s with
    | '.' :: rest => do
      let (part, rest) ← readKeyPart (skipBlanks rest)
      let (parts, rest) ← readMoreKeys fuel (skipBlanks rest)
      some (part :: parts, rest)
    | _ => some ([], s)

/-- A dotted key: its parents, its last part, and the text behind the blanks that follow. -/
def readKey (s : List Char) : Option (List String × String × List Char) := do
  let (first, rest) ← readKeyPart s
  let (more, rest) ← readMoreKeys rest.length (skipBlanks rest)
  let parts := first :: more
  some (parts.dropLast, parts.getLastD first, rest)

/-! ## Values -/

/-- A date, a moment, a time of day, or a number. -/
def readScalar (s : List Char) : Option (Value × List Char) :=
  match readDateOrMoment s with
  | some (some v, rest) => some (v, rest)
  | some (none, _) => none
  | none =>
    match readTime s with
    | some (t, rest) => some (.time t, rest)
    | none => readNumber s

mutual

/-- A value. Rounds that use up no character alternate with rounds that do, so that twice the length
of the text is fuel enough. -/
def readValue : (fuel : Nat) → List Char → Option (Value × List Char)
  | 0, _ => none
  | fuel + 1, s =>
    match s with
    | 't' :: 'r' :: 'u' :: 'e' :: rest => some (.bool true, rest)
    | 'f' :: 'a' :: 'l' :: 's' :: 'e' :: rest => some (.bool false, rest)
    | '[' :: rest => do
      let (items, rest) ← readItems fuel (← skipSpace false rest)
      some (.arr items, rest)
    | '\x7b' :: rest =>
      match skipBlanks rest with
      | '\x7d' :: rest => some (.table [], rest)
      | rest => do
        let (entries, rest) ← readPairs fuel [] rest
        some (.table (tableOf entries), rest)
    | c :: _ =>
      if c == '"' || c == '\'' then (readString s).map fun (s, rest) => (.str s, rest)
      else readScalar s
    | [] => none

/-- The items of an array up to its closing bracket. -/
def readItems : (fuel : Nat) → List Char → Option (List Value × List Char)
  | 0, _ => none
  | fuel + 1, s =>
    match s with
    | ']' :: rest => some ([], rest)
    | _ => do
      let (v, rest) ← readValue fuel s
      match ← skipSpace false rest with
      | ']' :: rest => some ([v], rest)
      | ',' :: rest => do
        let (items, rest) ← readItems fuel (← skipSpace false rest)
        some (v :: items, rest)
      | _ => none

/-- The pairs of a table within braces up to the closing brace. -/
def readPairs : (fuel : Nat) → Entries → List Char → Option (Entries × List Char)
  | 0, _, _ => none
  | fuel + 1, entries, s => do
    let (parents, key, rest) ← readKey s
    match rest with
    | '=' :: rest => do
      let (v, rest) ← readValue fuel (skipBlanks rest)
      let entries ← assign 0 v parents key entries
      match skipBlanks rest with
      | '\x7d' :: rest => some (entries, rest)
      | ',' :: rest => readPairs fuel entries (skipBlanks rest)
      | _ => none
    | _ => none

end

/-! ## Documents -/

/-- A document that was read in part: its entries, the path of the current section, and the number
of sections so far. -/
structure Progress where
  entries : Entries := []
  header : List String := []
  sections : Nat := 0

/-- A key with its value. -/
def readAssignment (p : Progress) (s : List Char) : Option (Progress × List Char) := do
  let (parents, key, rest) ← readKey s
  match rest with
  | '=' :: rest => do
    let (v, rest) ← readValue (2 * rest.length + 2) (skipBlanks rest)
    let entries ← alterUnder (assign p.sections v parents key) p.header p.entries
    some ({ p with entries }, rest)
  | _ => none

/-- A header, the text behind its opening brackets being given. -/
def readHeader (change : Option Entry → Option Entry) (closing : List Char) (p : Progress)
    (s : List Char) : Option (Progress × List Char) := do
  let (parents, key, rest) ← readKey (skipBlanks s)
  let entries ← alterUnder (alterAt key change) parents p.entries
  if closing.isPrefixOf rest then
    some (⟨entries, parents ++ [key], p.sections + 1⟩, rest.drop closing.length)
  else none

/-- A statement, unless the line holds none. -/
def readStatement (p : Progress) (s : List Char) : Option (Progress × List Char) :=
  match s with
  | [] => some (p, [])
  | '[' :: '[' :: rest => readHeader addTable [']', ']'] p rest
  | '[' :: rest => readHeader openTable [']'] p rest
  | c :: _ =>
    if isBareKeyChar c || c == '"' || c == '\'' then readAssignment p s
    else if c == '#' || c == '\n' then some (p, s)
    else none

/-- The lines of a document. Every round uses up a line feed. -/
def readLines : (fuel : Nat) → Progress → List Char → Option Entries
  | 0, _, _ => none
  | fuel + 1, p, s => do
    let (p, rest) ← readStatement p (skipBlanks s)
    match ← skipComment (skipBlanks rest) with
    | [] => some p.entries
    | '\n' :: rest => readLines fuel p rest
    | _ => none

/-- Reads a TOML document. -/
def read (text : String) : Option Table :=
  let s := withLineFeeds text.toList
  (readLines (s.length + 1) {} s).map tableOf

end JsonSeek.Toml
