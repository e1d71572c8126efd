import JsonSeek.Binary64.Decimal
import JsonSeek.Text.Quoted
import JsonSeek.Toml.Value

/-!
# TOML values as texts

A value that is used where a text is wanted. Strings stand for themselves; within arrays and tables
they are quoted, and dates and times are spelled out field by field.
-/

namespace JsonSeek.Toml

/-- A natural with at least the given number of digits. -/
def padded (width n : Nat) : String :=
  let digits := Nat.toDigits 10 n
  String.ofList (List.replicate (width - digits.length) '0' ++ digits)

/-- A date by year, month and day. -/
def Date.text (d : Date) : String :=
  String.intercalate "-" [padded 4 d.year, padded 2 d.month, padded 2 d.day]

/-- A time of day; a fraction of a second is written if there is one. -/
def Time.text (t : Time) : String :=
  String.intercalate ":" [padded 2 t.hour, padded 2 t.minute, padded 2 t.second] ++
    if t.microsecond = 0 then "" else "." ++ padded 6 t.microsecond

/-- An offset by sign, hours and minutes. -/
def offsetText (minutes : Int) : String :=
  (if minutes < 0 then "-" else "+") ++
    padded 2 (minutes.natAbs / 60) ++ ":" ++ padded 2 (minutes.natAbs % 60)

/-- A truth value. -/
def boolText (b : Bool) : String := if b then "True" else "False"

/-- The fields of a date. -/
def Date.fields (d : Date) : List String := [toString d.year, toString d.month, toString d.day]

/-- The fields of a time of day. Seconds and fractions of a second are left out if they are zero. -/
def Time.fields (t : Time) : List String :=
  [toString t.hour, toString t.minute] ++
    if t.microsecond ≠ 0 then [toString t.second, toString t.microsecond]
    else if t.second ≠ 0 then [toString t.second]
    else []

/-- A name with arguments. -/
def call (name : String) (arguments : List String) : String :=
  name ++ "(" ++ String.intercalate ", " arguments ++ ")"

/-- An offset spelled out. A negative one is a day back and some seconds forth. -/
def offsetFields (minutes : Int) : String :=
  if minutes = 0 then "datetime.timezone.utc"
  else
    let days := if minutes < 0 then ["days=-1"] else []
    let seconds := minutes * 60 % 86400
    call "datetime.timezone" [call "datetime.timedelta" (days ++ ["seconds=" ++ toString seconds])]

mutual

/-- A value as it stands within an array or a table. -/
def Value.nestedText : Value → String
  | .bool b => boolText b
  | .int n => toString n
  | .float x => x.text
  | .str s => Text.quoted s
  | .date d => call "datetime.date" d.fields
  | .time t => call "datetime.time" t.fields
  | .moment d t offset =>
    let zone := match offset with
      | some minutes => ["tzinfo=" ++ offsetFields minutes]
      | none => []
    call "datetime.datetime" (d.fields ++ t.fields ++ zone)
  | .arr items => "[" ++ String.intercalate ", " (itemTexts items) ++ "]"
  | .table fields => "\x7b" ++ String.intercalate ", " (fieldTexts fields) ++ "\x7d"

/-- The items of an array. -/
def itemTexts : List Value → List String
  | [] => []
  | v :: rest => v.nestedText :: itemTexts rest

/-- The fields of a table. -/
def fieldTexts : List (String × Value) → List String
  | [] => []
  | (key, v) :: rest => (Text.quoted key ++ ": " ++ v.nestedText) :: fieldTexts rest

end

/-- A value as a text. -/
def Value.text : Value → String
  | .str s => s
  | .date d => d.text
  | .time t => t.text
  | .moment d t offset =>
    d.text ++ " " ++ t.text ++ match offset with
      | some minutes => offsetText minutes
      | none => ""
  | v => v.nestedText

end JsonSeek.Toml
