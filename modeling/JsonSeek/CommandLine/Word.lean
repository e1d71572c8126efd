import JsonSeek.CommandLine.Switch
import JsonSeek.Text.Digit

/-!
# The words of a command line

A word is a switch, possibly with a value attached, or a plain text. Long switches can be
abbreviated as long as they stay unambiguous, and short ones can be joined in one word. A negative
number and a text with a blank are plain although they begin with a dash. Two dashes on their own
make everything behind them plain.
-/

namespace JsonSeek.CommandLine

/-- Why a command line cannot be read. -/
inductive UsageFault
  | ambiguous (word : String) (matching : List String)
  | ignoredValue (s : Switch) (value : String)
  | missingValue (s : Switch)
  | noInteger (s : Switch) (value : String)
  | noNumber (s : Switch) (value : String)
  | noChoice (s : Switch) (value : String)
  | missingQuery
  | unrecognized (words : List String)
deriving DecidableEq

/-- The wording of a fault. -/
def UsageFault.message : UsageFault → String
  | ambiguous word matching =>
    "ambiguous option: " ++ word ++ " could match " ++ String.intercalate ", " matching
  | ignoredValue s value =>
    "argument " ++ s.title ++ ": ignored explicit argument " ++ Text.quoted value
  | missingValue s => "argument " ++ s.title ++ ": expected one argument"
  | noInteger s value => "argument " ++ s.title ++ ": invalid int value: " ++ Text.quoted value
  | noNumber s value => "argument " ++ s.title ++ ": invalid float value: " ++ Text.quoted value
  | noChoice s value =>
    "argument " ++ s.title ++ ": invalid choice: " ++ Text.quoted value ++ " (choose from " ++
      String.intercalate ", " ((s.choices?.getD []).map Text.quoted) ++ ")"
  | missingQuery => "the following arguments are required: " ++ Switch.query.title
  | unrecognized words => "unrecognized arguments: " ++ String.intercalate " " words

/-- A word of a command line. A switch can have a text attached, behind an equals sign or, if it
is a single letter, right behind the letter. -/
inductive Word
  | plain (text : String)
  | dashes
  | unknown (text : String)
  | switch (s : Switch) (short : Bool) (attached : Option (List Char))

/-- The text up to the first equals sign, and the text behind it if there is one. -/
def splitAtEquals (s : List Char) : List Char × Option (List Char) :=
  match s.dropWhile (· != '=') with
  | [] => (s, none)
  | _ :: value => (s.takeWhile (· != '='), some value)

/-- Whether a word is a negative number: digits, or digits of which a point splits off at least
one. -/
def isNegativeNumber (word : List Char) : Bool :=
  let body := if word.getLast? = some '\n' then word.dropLast else word
  match body with
  | '-' :: rest =>
    match rest.dropWhile Text.isDecimal with
    | [] => !rest.isEmpty
    | '.' :: places => !places.isEmpty && places.all Text.isDecimal
    | _ => false
  | _ => false

/-- The readings of a word that is no exact spelling of a switch, with those spellings. -/
def readings (word : List Char) : List (String × Word) :=
  match word with
  | '-' :: '-' :: _ =>
    let (name, attached) := splitAtEquals word
    (Switch.spellings.filter fun (spelling, _) => name.isPrefixOf spelling.toList).map
      fun (spelling, s) => (spelling, .switch s false attached)
  | '-' :: c :: rest =>
    match Switch.ofLetter? c with
    | some s => [(String.ofList ['-', c], .switch s true (some rest))]
    | none => []
  | _ => []

/-- A word that begins with a dash and is no exact spelling of a switch. -/
def guess (word : String) : Except UsageFault Word :=
  let chars := word.toList
  match readings chars with
  | [] => .ok (if isNegativeNumber chars || chars.contains ' ' then .plain word else .unknown word)
  | [(_, reading)] => .ok reading
  | several => .error (.ambiguous word (several.map (·.1)))

/-- The meaning of a word. -/
def classify (word : String) : Except UsageFault Word :=
  match word.toList with
  | '-' :: c :: _ =>
    match Switch.ofName? word with
    | some s => .ok (.switch s (c != '-') none)
    | none =>
      match splitAtEquals word.toList with
      | (_, none) => guess word
      | (name, some value) =>
        match Switch.ofName? (String.ofList name) with
        | some s => .ok (.switch s (c != '-') (some value))
        | none => guess word
  | _ => .ok (.plain word)

/-- The meanings of the words of a command line. -/
def classifyAll : List String → Except UsageFault (List Word)
  | [] => .ok []
  | word :: rest =>
    if word = "--" then .ok (.dashes :: rest.map .plain)
    else
      match classify word with
      | .error fault => .error fault
      | .ok first => (classifyAll rest).map (first :: ·)

/-! ## Joined switches -/

/-- How a word of joined switches ends: without more, with a value, or with a switch that takes the
next word for its value. -/
inductive Ending
  | complete
  | value (s : Switch) (text : List Char)
  | awaits (s : Switch)

/-- The switches without values that a word joins, and how it ends. -/
structure Joined where
  flags : List Switch
  ending : Ending

/-- A switch at the end of a word. -/
def lone (s : Switch) : Joined := if s.takesValue then ⟨[], .awaits s⟩ else ⟨[s], .complete⟩

/-- Puts a switch in front. -/
def Joined.push (s : Switch) (j : Joined) : Joined := ⟨s :: j.flags, j.ending⟩

/-- A switch with a text attached. For a single letter that takes no value the text is more such
letters, and every one of them has to mean a switch. -/
def unjoin (s : Switch) (short : Bool) : List Char → Except UsageFault Joined
  | [] => if s.takesValue then .ok ⟨[], .value s []⟩ else .error (.ignoredValue s "")
  | c :: rest =>
    if s.takesValue then .ok ⟨[], .value s (c :: rest)⟩
    else
      match if short then Switch.ofLetter? c else none with
      | none => .error (.ignoredValue s (String.ofList (c :: rest)))
      | some next => (if rest.isEmpty then .ok (lone next) else unjoin next true rest).map (.push s)

/-- The switches of a word. -/
def joined (s : Switch) (short : Bool) (attached : Option (List Char)) : Except UsageFault Joined :=
  match attached with
  | none => .ok (lone s)
  | some text => unjoin s short text

end JsonSeek.CommandLine
