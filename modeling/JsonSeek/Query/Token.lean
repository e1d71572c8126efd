import JsonSeek.Query.Comparison
import JsonSeek.Text.Quoted

/-!
# Queries as tokens

A query starts with `$` and goes on with selectors: `.name`, `..`, `.*`, `[*]`, `[n]`, `['name']`,
`[start:end:step]` and `[?(condition)]`. The body of a bracket is classified in a fixed order: the
star, a condition if it holds a question mark, a slice if it holds a colon, an index, a quoted name.
Characters that fit nowhere are dropped.
-/

namespace JsonSeek.Query

/-- One selector of a query. -/
inductive Token
  | root
  | property (name : String)
  | index (i : Int)
  | wildcard
  | descent
  | filter (expression : String) (comparison : Option Comparison)
  | slice (start stop step : Option Int)
deriving DecidableEq

/-- The text does not start with `$`. -/
structure Unrooted where
  query : String
deriving DecidableEq

/-- The wording for a text that is no query. -/
def Unrooted.message (e : Unrooted) : String :=
  "JSONPath must start with $: " ++ Text.quoted e.query

/-- The integer at the front of a part of a slice. A part without one means the default. -/
def leadingInt? (part : List Char) : Option Int :=
  let (negative, body) := Text.splitSign (Text.strip part)
  let digits := body.takeWhile Text.isDecimal
  if digits.isEmpty then none
  else
    let n : Int := Text.decimalNat digits
    some (if negative then -n else n)

/-- The parts of a text between colons. -/
def splitColons : List Char → List (List Char)
  | [] => [[]]
  | c :: rest =>
    if c = ':' then [] :: splitColons rest
    else
      match splitColons rest with
      | [] => [[c]]
      | part :: parts => (c :: part) :: parts

/-- The slice that a text means; parts beyond the third are ignored. -/
def readSlice (body : List Char) : Token :=
  match splitColons body with
  | start :: stop :: step :: _ => .slice (leadingInt? start) (leadingInt? stop) (leadingInt? step)
  | [start, stop] => .slice (leadingInt? start) (leadingInt? stop) none
  | [start] => .slice (leadingInt? start) none none
  | [] => .slice none none none

/-- The index that a text writes: decimal digits, with at most a line feed behind them. -/
def readIndex? (body : List Char) : Option Nat :=
  let (digits, rest) := Text.span Text.isDecimal body
  if digits.isEmpty || !(rest == [] || rest == ['\n']) then none else some (Text.decimalNat digits)

/-- The token that the body of a bracket means, if any. -/
def readBracket (body : List Char) : Option Token :=
  if body = ['*'] then some .wildcard
  else if body.contains '?' then some (.filter (String.ofList body) (Comparison.read? body))
  else if body.contains ':' then some (readSlice body)
  else
    match readIndex? body with
    | some n => some (.index n)
    | none =>
      match body with
      | c :: rest =>
        if c = '\'' || c = '"' then some (.property (String.ofList rest.dropLast)) else none
      | [] => none

/-- The body of a bracket up to the closing bracket of the same level, and the text behind it. A
bracket that is never closed takes the rest. -/
def splitBracket : (level : Nat) → List Char → List Char × List Char
  | _, [] => ([], [])
  | level, c :: rest =>
    if c = ']' && level = 0 then ([], rest)
    else
      let level := if c = '[' then level + 1 else if c = ']' then level - 1 else level
      let (body, after) := splitBracket level rest
      (c :: body, after)

/-- Whether a character ends a name. -/
def endsName (c : Char) : Bool := c == '.' || c == '['

/-- The selector behind a dot, if there is one, and the text behind it. -/
def readDotted (s : List Char) : List Token × List Char :=
  match s with
  | '*' :: rest => ([.wildcard], rest)
  | _ =>
    let name := s.takeWhile (!endsName ·)
    let rest := s.dropWhile (!endsName ·)
    (if name.isEmpty then [] else [.property (String.ofList name)], rest)

/-- The tokens of a text behind `$`. Every round uses up a character, so that the length bounds the
rounds. -/
def readTokens : (fuel : Nat) → List Char → List Token
  | 0, _ => []
  | fuel + 1, s =>
    match s with
    | [] => []
    | '.' :: '.' :: '[' :: rest => .descent :: readTokens fuel ('[' :: rest)
    | '.' :: '.' :: rest =>
      let (selector, rest) := readDotted rest
      .descent :: (selector ++ readTokens fuel rest)
    | '.' :: rest =>
      let (selector, rest) := readDotted rest
      selector ++ readTokens fuel rest
    | '[' :: rest =>
      let (body, rest) := splitBracket 0 rest
      (readBracket body).toList ++ readTokens fuel rest
    | _ :: rest => readTokens fuel rest

/-- Splits a query into its tokens. -/
def tokenize (query : String) : Except Unrooted (List Token) :=
  match query.toList with
  | '$' :: rest => .ok (.root :: readTokens rest.length rest)
  | _ => .error ⟨query⟩

end JsonSeek.Query
