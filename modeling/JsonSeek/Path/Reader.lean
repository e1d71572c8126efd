import JsonSeek.Path.Basic
import JsonSeek.Text.Digit
import JsonSeek.Text.Quoted

/-!
# Reading paths

`Path.read` accepts both spellings: an optional `$`, keys behind dots, and brackets that hold an
index or a quoted key. A closing bracket inside quotes belongs to the key. Dots separate and mean
nothing else, so that repeated ones are skipped.
-/

namespace JsonSeek.Path

/-- Why a text is no path. -/
inductive Fault
  | unclosedBracket
  | malformedBracket (body : String)
  | unreadableIndex (digits : String)
deriving DecidableEq

/-- The wording of a fault of the given text. -/
def Fault.message (text : String) : Fault → String
  | unclosedBracket => "Unclosed bracket in path " ++ Text.quoted text
  | malformedBracket body =>
    "Malformed bracket segment [" ++ body ++ "] in path " ++ Text.quoted text
  | unreadableIndex digits => "invalid literal for int() with base 10: " ++ Text.quoted digits

/-- The body of a bracket up to the first closing bracket outside quotes, and the text behind it. -/
def bracketBody (openQuote : Option Char) : List Char → Option (List Char × List Char)
  | [] => none
  | c :: rest =>
    match openQuote with
    | some quote => pushed c (bracketBody (if c = quote then none else some quote) rest)
    | none =>
      if c = ']' then some ([], rest)
      else pushed c (bracketBody (if c = '\'' || c = '"' then some c else none) rest)
where
  /-- Puts a character in front of a body. -/
  pushed (c : Char) (found : Option (List Char × List Char)) : Option (List Char × List Char) :=
    found.map fun (body, rest) => (c :: body, rest)

/-- The inside of a text between two equal quotes. -/
def unquote? : List Char → Option (List Char)
  | quote :: rest =>
    if (quote = '\'' || quote = '"') && rest.getLast? = some quote then some rest.dropLast else none
  | [] => none

/-- The step that the body of a bracket means. -/
def bracketStep (body : List Char) : Except Fault Segment :=
  if !body.isEmpty && body.all Text.isDigitLike then
    if body.all Text.isDecimal then .ok (.index (Text.decimalNat body))
    else .error (.unreadableIndex (String.ofList body))
  else
    match unquote? body with
    | some key => .ok (.key (String.ofList key))
    | none => .error (.malformedBracket (String.ofList body))

/-- Whether a character ends a key behind a dot. -/
def endsKey (c : Char) : Bool := c == '.' || c == '['

/-- The steps of a text. Every round uses up a character, so that its length bounds the rounds. -/
def readSteps : (fuel : Nat) → List Char → Except Fault Path
  | 0, _ => .ok []
  | fuel + 1, s =>
    match s with
    | [] => .ok []
    | '.' :: rest => readSteps fuel rest
    | '[' :: rest =>
      match bracketBody none rest with
      | none => .error .unclosedBracket
      | some (body, rest) =>
        match bracketStep body with
        | .error fault => .error fault
        | .ok step => (readSteps fuel rest).map (step :: ·)
    | _ =>
      let key := s.takeWhile (!endsKey ·)
      let rest := s.dropWhile (!endsKey ·)
      (readSteps fuel rest).map (.key (String.ofList key) :: ·)

/-- The text behind a leading `$`. -/
def withoutRoot : List Char → List Char
  | '$' :: rest => rest
  | s => s

/-- Reads a path in either spelling. -/
def read (text : String) : Except Fault Path :=
  let s := withoutRoot text.toList
  readSteps s.length s

end JsonSeek.Path
