import JsonSeek.Binary64.Basic
import JsonSeek.Text.Blank
import JsonSeek.Text.Digit

/-!
# Reading typed numbers

Texts that people type as numbers: surrounding blanks, a sign, decimal digits of any script and
single low lines between digits are accepted. A fractional number also has a point, an exponent, or
one of the words for infinity and for a result that is no number.
-/

namespace JsonSeek.Text

/-- Whether a character counts as blank around a typed number. -/
def isNumeralBlank (c : Char) : Bool := isPlainBlank c || isWideBlank c

/-- Splits off the sign: whether it is negative, and the rest. -/
def splitSign : List Char → Bool × List Char
  | '-' :: rest => (true, rest)
  | '+' :: rest => (false, rest)
  | s => (false, s)

/-- The characters up to the first one outside a class, and the rest. -/
def span (inside : Char → Bool) (s : List Char) : List Char × List Char :=
  (s.takeWhile inside, s.dropWhile inside)

/-- Removes low lines, each of which must stand between two digits. -/
def dropLowLines : List Char → Option (List Char)
  | [] => some []
  | c :: '_' :: d :: rest =>
    if isDecimal c && isDecimal d then (dropLowLines (d :: rest)).map (c :: ·) else none
  | c :: rest => if c == '_' then none else (dropLowLines rest).map (c :: ·)

/-- Reads a typed integer. -/
def readInt? (s : List Char) : Option Int :=
  let (negative, body) := splitSign (trim isNumeralBlank s)
  match dropLowLines body with
  | none => none
  | some digits =>
    if digits.isEmpty || !digits.all isDecimal then none
    else
      let n : Int := decimalNat digits
      some (if negative then -n else n)

/-- The exponent that ends a typed number: nothing, or a mark with a signed digit sequence. -/
def readExponent? : List Char → Option Int
  | [] => some 0
  | mark :: rest =>
    let (negative, digits) := splitSign rest
    if (mark == 'e' || mark == 'E') && !digits.isEmpty && digits.all isDecimal then
      let n : Int := decimalNat digits
      some (if negative then -n else n)
    else none

/-- Reads the digits, point and exponent of a typed number. -/
def readDecimal? (negative : Bool) (s : List Char) : Option Binary64 :=
  let (whole, rest) := span isDecimal s
  let (places, rest) := match rest with
    | '.' :: rest => span isDecimal rest
    | rest => ([], rest)
  if whole.isEmpty && places.isEmpty then none
  else
    (readExponent? rest).map fun exponent =>
      Binary64.ofDecimal negative (decimalNat (whole ++ places)) (exponent - places.length)

/-- Reads a typed number as a double. -/
def readBinary64? (s : List Char) : Option Binary64 :=
  let (negative, body) := splitSign (trim isNumeralBlank s)
  let word := body.map Char.toLower
  if word == ['i', 'n', 'f'] || word == ['i', 'n', 'f', 'i', 'n', 'i', 't', 'y'] then
    some (.infinite negative)
  else if word == ['n', 'a', 'n'] then some .nan
  else (dropLowLines body).bind (readDecimal? negative)

end JsonSeek.Text
