import JsonSeek.Toml.Value

/-!
# Reading dates and times

Dates, times of day, and moments, at the beginning of a text. All numbers have a fixed width. What
follows is returned with the value.
-/

namespace JsonSeek.Toml

/-- Whether a year has a twenty-ninth of February. -/
def isLeapYear (year : Nat) : Bool := year % 4 == 0 && (year % 100 != 0 || year % 400 == 0)

/-- The number of days of a month. -/
def daysInMonth (year month : Nat) : Nat :=
  if month = 2 then if isLeapYear year then 29 else 28
  else if month = 4 ∨ month = 6 ∨ month = 9 ∨ month = 11 then 30
  else 31

/-- Whether a date is a day of the calendar. -/
def Date.isValid (d : Date) : Bool :=
  1 ≤ d.year && 1 ≤ d.month && d.month ≤ 12 && 1 ≤ d.day && d.day ≤ daysInMonth d.year d.month

/-- The number that a sequence of decimal digits means. -/
def digitsNat (digits : List Char) : Nat := digits.foldl (fun n c => 10 * n + (c.toNat - 48)) 0

/-- A number of exactly `width` digits, at most `bound`. -/
def readFixed (width bound : Nat) (s : List Char) : Option (Nat × List Char) :=
  let digits := s.take width
  if digits.length = width && digits.all Char.isDigit && digitsNat digits ≤ bound then
    some (digitsNat digits, s.drop width)
  else none

/-- The text behind a character that has to be there. -/
def expect (c : Char) : List Char → Option (List Char)
  | d :: rest => if c = d then some rest else none
  | [] => none

/-- The spelling of a date, be it a day of the calendar or not. -/
def readDate (s : List Char) : Option (Date × List Char) := do
  let (year, s) ← readFixed 4 9999 s
  let s ← expect '-' s
  let (month, s) ← readFixed 2 12 s
  let s ← expect '-' s
  let (day, s) ← readFixed 2 31 s
  if month = 0 ∨ day = 0 then none else some (⟨year, month, day⟩, s)

/-- A fraction of a second in microseconds; digits beyond the sixth do not count. -/
def readFraction (s : List Char) : Nat × List Char :=
  match s with
  | '.' :: rest =>
    let digits := rest.takeWhile Char.isDigit
    if digits.isEmpty then (0, s)
    else
      let counted := digits.take 6
      (digitsNat counted * Nat.pow 10 (6 - counted.length), rest.dropWhile Char.isDigit)
  | _ => (0, s)

/-- A time of day; seconds have to be given. -/
def readTime (s : List Char) : Option (Time × List Char) := do
  let (hour, s) ← readFixed 2 23 s
  let s ← expect ':' s
  let (minute, s) ← readFixed 2 59 s
  let s ← expect ':' s
  let (second, s) ← readFixed 2 59 s
  let (microsecond, s) := readFraction s
  some (⟨hour, minute, second, microsecond⟩, s)

/-- The hours and minutes of an offset. -/
def readOffsetSize (s : List Char) : Option (Nat × List Char) := do
  let (hours, s) ← readFixed 2 23 s
  let s ← expect ':' s
  let (minutes, s) ← readFixed 2 59 s
  some (60 * hours + minutes, s)

/-- An offset in minutes, if there is one. -/
def readOffset (s : List Char) : Option Int × List Char :=
  match s with
  | [] => (none, s)
  | c :: rest =>
    if c == 'Z' || c == 'z' then (some 0, rest)
    else if c == '+' || c == '-' then
      match readOffsetSize rest with
      | some (minutes, rest) => (some (if c == '-' then -(minutes : Int) else minutes), rest)
      | none => (none, s)
    else (none, s)

/-- The time that follows a date, if there is one. -/
def readTimeOfDate (s : List Char) : Option (Time × List Char) :=
  match s with
  | c :: rest => if c == 'T' || c == 't' || c == ' ' then readTime rest else none
  | [] => none

/-- A date or a moment. The inner result is none if the date is no day of the calendar. -/
def readDateOrMoment (s : List Char) : Option (Option Value × List Char) := do
  let (date, s) ← readDate s
  match readTimeOfDate s with
  | none => some (if date.isValid then some (.date date) else none, s)
  | some (time, s) =>
    let (offset, s) := readOffset s
    some (if date.isValid then some (.moment date time offset) else none, s)

end JsonSeek.Toml
