import JsonSeek.Binary64.Basic

/-!
# Decimal texts of doubles

`shortestDigits` finds the fewest significant digits that read back as the same double and, among
those, the nearest to its value. `Layout` says how digits become text: where positional notation
ends and whether a whole number keeps its point. Rounding to a given number of digits or places is
exact, a tie going to the even digit.
-/

namespace JsonSeek.Binary64

/-- The decimal digits of a natural. -/
def digitsOf (n : Nat) : List Char := Nat.toDigits 10 n

/-- Significant decimal digits `d₁ d₂ …`, with the value `0.d₁d₂… * 10 ^ point`. -/
structure Digits where
  digits : List Char
  point : Int

/-- The digits of `n * 10 ^ exponent` without trailing zeros. -/
def Digits.ofScaled (n : Nat) (exponent : Int) : Digits :=
  let digits := digitsOf n
  let stripped := (digits.reverse.dropWhile (· = '0')).reverse
  if stripped.isEmpty then ⟨['0'], 1⟩ else ⟨stripped, digits.length + exponent⟩

/-- The magnitude of a finite number as a fraction of naturals. -/
def fraction (mantissa : Nat) (exponent : Int) : Nat × Nat :=
  if exponent < 0 then (mantissa, Nat.pow 2 exponent.natAbs)
  else (mantissa * Nat.pow 2 exponent.natAbs, 1)

/-- The fraction `num / den` times `10 ^ places`, as a fraction of naturals. -/
def decimalShift (num den : Nat) (places : Int) : Nat × Nat :=
  if places < 0 then (num, den * Nat.pow 10 places.natAbs)
  else (num * Nat.pow 10 places.natAbs, den)

/-- Whether `num / den < 10 ^ p`. -/
def belowPower (num den : Nat) (p : Int) : Bool :=
  let (n, d) := decimalShift num den (-p)
  n < d

/-- The least `p` with `num / den < 10 ^ p`. The leading bits give a lower bound that is at most
two too small. -/
def decimalPoint (num den : Nat) : Int :=
  let bound := ((num.log2 : Int) - den.log2 - 1) * 30103 / 100000
  if belowPower num den bound then bound
  else if belowPower num den (bound + 1) then bound + 1
  else if belowPower num den (bound + 2) then bound + 2
  else bound + 3

/-- The neighbour on the grid of `n` significant digits that reads back as the number, if there is
one: the nearer of the two, and of two equally near ones the even one. -/
def readsBackAt (mantissa : Nat) (exponent : Int) (num den : Nat) (point : Int) (n : Nat) :
    Option Nat :=
  let (scaledNum, scaledDen) := decimalShift num den (n - point)
  let low := scaledNum / scaledDen
  let rest := scaledNum % scaledDen
  let readsBack (candidate : Nat) : Bool :=
    ofDecimal false candidate (point - n) == finite false mantissa exponent
  if rest = 0 then some low
  else
    let nearest := if 2 * rest < scaledDen then low
      else if scaledDen < 2 * rest then low + 1
      else low + low % 2
    let other := if nearest = low then low + 1 else low
    if readsBack nearest then some nearest else if readsBack other then some other else none

/-- The fewest digits that read back as the number `mantissa * 2 ^ exponent`. -/
def shortestDigits (mantissa : Nat) (exponent : Int) : Digits :=
  if mantissa = 0 then ⟨['0'], 1⟩
  else
    let (num, den) := fraction mantissa exponent
    let point := decimalPoint num den
    let found := (List.range 17).findSome? fun k =>
      (readsBackAt mantissa exponent num den point (k + 1)).map fun digits =>
        Digits.ofScaled digits (point - (k + 1))
    found.getD (Digits.ofScaled mantissa 0)

/-- The number rounded to `n` significant digits. -/
def roundedDigits (mantissa : Nat) (exponent : Int) (n : Nat) : Digits :=
  if mantissa = 0 then ⟨['0'], 1⟩
  else
    let (num, den) := fraction mantissa exponent
    let point := decimalPoint num den
    let (scaledNum, scaledDen) := decimalShift num den (n - point)
    Digits.ofScaled (roundDiv scaledNum scaledDen) (point - n)

/-- How digits are laid out: positionally while the decimal point stands at most `greatestPoint`
digits to the right and fewer than four zeros follow it, else with an exponent of at least two
digits. A whole number in positional notation keeps `.0` when `keepsPoint` holds. -/
structure Layout where
  greatestPoint : Int
  keepsPoint : Bool

/-- The layout of numbers in documents and messages. -/
def Layout.shortest : Layout := ⟨16, true⟩

/-- The layout of scores in tables, with six significant digits. -/
def Layout.general : Layout := ⟨6, false⟩

def zeros (n : Nat) : List Char := List.replicate n '0'

/-- The exponent with its sign and at least two digits. -/
def exponentText (e : Int) : List Char :=
  let digits := digitsOf e.natAbs
  let padded := if digits.length < 2 then '0' :: digits else digits
  (if e < 0 then '-' else '+') :: padded

/-- The text of an unsigned number. -/
def Layout.write (layout : Layout) (d : Digits) : List Char :=
  if -4 < d.point && d.point ≤ layout.greatestPoint then
    if d.point ≤ 0 then '0' :: '.' :: (zeros d.point.natAbs ++ d.digits)
    else
      let whole := d.point.toNat
      if d.digits.length ≤ whole then
        d.digits ++ zeros (whole - d.digits.length) ++
          (if layout.keepsPoint then ['.', '0'] else [])
      else d.digits.take whole ++ '.' :: d.digits.drop whole
  else
    match d.digits with
    | [] => []
    | [first] => first :: 'e' :: exponentText (d.point - 1)
    | first :: rest => first :: '.' :: (rest ++ 'e' :: exponentText (d.point - 1))

def signText (negative : Bool) : List Char := if negative then ['-'] else []

/-- The shortest text that reads back: `1.0`, `1e+16`, `1e-07`, `-0.0`, `nan`, `inf`. -/
def text : Binary64 → String
  | nan => "nan"
  | infinite s => if s then "-inf" else "inf"
  | finite s m e => String.ofList (signText s ++ Layout.shortest.write (shortestDigits m e))

/-- The text with at most six significant digits and no trailing zeros. -/
def generalText : Binary64 → String
  | nan => "nan"
  | infinite s => if s then "-inf" else "inf"
  | finite s m e => String.ofList (signText s ++ Layout.general.write (roundedDigits m e 6))

/-- The text with exactly two decimal places. -/
def hundredthsText : Binary64 → String
  | nan => "nan"
  | infinite s => if s then "-inf" else "inf"
  | finite s m e =>
    let (num, den) := fraction m e
    let hundredths := roundDiv (num * 100) den
    let places := digitsOf (hundredths % 100)
    let padded := if places.length < 2 then '0' :: places else places
    String.ofList (signText s ++ digitsOf (hundredths / 100) ++ '.' :: padded)

end JsonSeek.Binary64
