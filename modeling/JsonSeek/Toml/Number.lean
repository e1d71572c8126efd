import JsonSeek.Toml.Value

/-!
# Reading numbers

Integers and doubles at the beginning of a text. Single low lines may stand between digits.
Numbers of base two, eight and sixteen have no sign; decimal numbers have no superfluous zeros in
front.
-/

namespace JsonSeek.Toml

/-- The value of a digit of any base up to sixteen. -/
def digitValue (c : Char) : Nat :=
  if c.isDigit then c.toNat - 48 else if 'a' ≤ c then c.toNat - 87 else c.toNat - 55

/-- Whether a character is a digit of a base up to sixteen. -/
def isDigitOf (base : Nat) (c : Char) : Bool :=
  (c.isDigit || ('a' ≤ c && c ≤ 'f') || ('A' ≤ c && c ≤ 'F')) && digitValue c < base

/-- The digits that follow a digit, low lines between them removed, and the rest. -/
def moreDigits (digit : Char → Bool) : List Char → List Char × List Char
  | '_' :: d :: rest =>
    if digit d then
      let (digits, rest) := moreDigits digit rest
      (d :: digits, rest)
    else ([], '_' :: d :: rest)
  | c :: rest =>
    if digit c then
      let (digits, rest) := moreDigits digit rest
      (c :: digits, rest)
    else ([], c :: rest)
  | [] => ([], [])

/-- The digits in front of a text, low lines between them removed, and the rest. -/
def readDigits (digit : Char → Bool) (s : List Char) : List Char × List Char :=
  match s with
  | c :: rest =>
    if digit c then
      let (digits, rest) := moreDigits digit rest
      (c :: digits, rest)
    else ([], s)
  | [] => ([], [])

/-- The number that digits of a base mean. -/
def numberOf (base : Nat) (digits : List Char) : Nat :=
  digits.foldl (fun n c => base * n + digitValue c) 0

/-- The base that a letter behind a zero announces. -/
def baseOf? : Char → Option Nat
  | 'x' => some 16
  | 'o' => some 8
  | 'b' => some 2
  | _ => none

/-- A number of base two, eight or sixteen. -/
def readBased (s : List Char) : Option (Value × List Char) :=
  match s with
  | '0' :: mark :: rest =>
    match baseOf? mark with
    | none => none
    | some base =>
      match readDigits (isDigitOf base) rest with
      | ([], _) => none
      | (digits, rest) => some (.int (numberOf base digits), rest)
  | _ => none

/-- A sign that may be missing: whether it is negative, and the rest. -/
def readSign : List Char → Bool × List Char
  | '-' :: rest => (true, rest)
  | '+' :: rest => (false, rest)
  | s => (false, s)

/-- The whole part of a decimal number: a zero, or digits that begin with another one. -/
def readWhole (s : List Char) : Option (List Char × List Char) :=
  match s with
  | '0' :: rest => some (['0'], rest)
  | _ =>
    match readDigits Char.isDigit s with
    | ([], _) => none
    | found => some found

/-- The digits behind a point, if there are any. -/
def readPlaces (s : List Char) : List Char × List Char :=
  match s with
  | '.' :: rest =>
    match readDigits Char.isDigit rest with
    | ([], _) => ([], s)
    | found => found
  | _ => ([], s)

/-- The exponent, if there is one. -/
def readExponent (s : List Char) : Option Int × List Char :=
  match s with
  | c :: rest =>
    if c == 'e' || c == 'E' then
      let (negative, rest) := readSign rest
      match readDigits Char.isDigit rest with
      | ([], _) => (none, s)
      | (digits, rest) =>
        let n : Int := numberOf 10 digits
        (some (if negative then -n else n), rest)
    else (none, s)
  | [] => (none, s)

/-- A decimal number. It is a double if it has a point or an exponent. -/
def readDecimal (s : List Char) : Option (Value × List Char) :=
  let (negative, s) := readSign s
  match readWhole s with
  | none => none
  | some (whole, s) =>
    let (places, s) := readPlaces s
    let (exponent, s) := readExponent s
    if places.isEmpty && exponent.isNone then
      let n : Int := numberOf 10 whole
      some (.int (if negative then -n else n), s)
    else
      let digits := numberOf 10 (whole ++ places)
      some (.float (.ofDecimal negative digits (exponent.getD 0 - places.length)), s)

/-- One of the words for infinity and for a result that is no number, with or without a sign. -/
def readSpecial (s : List Char) : Option (Value × List Char) :=
  match readSign s with
  | (negative, 'i' :: 'n' :: 'f' :: rest) => some (.float (.infinite negative), rest)
  | (_, 'n' :: 'a' :: 'n' :: rest) => some (.float .nan, rest)
  | _ => none

/-- A number. -/
def readNumber (s : List Char) : Option (Value × List Char) :=
  readBased s <|> readDecimal s <|> readSpecial s

end JsonSeek.Toml
