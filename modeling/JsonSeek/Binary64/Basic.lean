/-!
# Binary64 numbers

A double is a sign, a natural mantissa and a binary exponent, or one of the special values. The
finite value `finite s m e` stands for `m * 2 ^ e`, negated when `s` holds. Numbers built by this
library have `m < 2 ^ 53` and `-1074 ≤ e ≤ 971`, and `m` fills all 53 bits unless `e = -1074`, so
that equal doubles are equal terms (the two zeros differ by sign).

All arithmetic is exact arithmetic on naturals followed by one rounding to nearest, ties to even.
-/

namespace JsonSeek

/-- A number of the binary64 interchange format. -/
inductive Binary64
  | nan
  | infinite (negative : Bool)
  | finite (negative : Bool) (mantissa : Nat) (exponent : Int)
deriving DecidableEq

namespace Binary64

/-- The exponent of the last place of the smallest doubles. -/
def leastExponent : Int := -1074

/-- The exponent of the last place of the greatest doubles. -/
def greatestExponent : Int := 971

def zero : Binary64 := finite false 0 leastExponent

/-- The quotient rounded to the nearest natural, a tie going to the even neighbour. -/
def roundDiv (num den : Nat) : Nat :=
  let quotient := num / den
  let twice := 2 * (num % den)
  if twice < den then quotient
  else if den < twice then quotient + 1
  else quotient + quotient % 2

/-- The fraction `num / den` divided by `2 ^ shift`, as a fraction of naturals. -/
def shiftedFraction (num den : Nat) (shift : Int) : Nat × Nat :=
  if shift < 0 then (num * Nat.pow 2 shift.natAbs, den) else (num, den * Nat.pow 2 shift.natAbs)

/-- The exponent of the last place of a double next to `num / den`. The quotient of the leading
bits is off by at most one place, which the comparison with `2 ^ 52` corrects. -/
def placeExponent (num den : Nat) : Int :=
  let guess : Int := num.log2 - den.log2 - 52
  let (scaledNum, scaledDen) := shiftedFraction num den guess
  max leastExponent (if scaledNum / scaledDen < Nat.pow 2 52 then guess - 1 else guess)

/-- Packs a rounded mantissa; a carry out of the 53 bits moves the place up. -/
def pack (negative : Bool) (mantissa : Nat) (place : Int) : Binary64 :=
  let (mantissa, place) :=
    if mantissa = Nat.pow 2 53 then (Nat.pow 2 52, place + 1) else (mantissa, place)
  if greatestExponent < place then infinite negative else finite negative mantissa place

/-- The double nearest to `num / den`, for `den` not zero. -/
def ofRatio (negative : Bool) (num den : Nat) : Binary64 :=
  if num = 0 then finite negative 0 leastExponent
  else
    let place := placeExponent num den
    let (scaledNum, scaledDen) := shiftedFraction num den place
    pack negative (roundDiv scaledNum scaledDen) place

/-- The double nearest to `digits * 10 ^ exponent`. An exponent that is far out of range decides
the answer before any power is built. -/
def ofDecimal (negative : Bool) (digits : Nat) (exponent : Int) : Binary64 :=
  if digits = 0 then finite negative 0 leastExponent
  else if 400 < exponent then infinite negative
  else if exponent < -(digits.log2 + 400 : Int) then finite negative 0 leastExponent
  else if exponent < 0 then ofRatio negative digits (Nat.pow 10 exponent.natAbs)
  else ofRatio negative (digits * Nat.pow 10 exponent.natAbs) 1

/-- The double nearest to an integer. -/
def ofInt (n : Int) : Binary64 := ofRatio (n < 0) n.natAbs 1

/-- The double nearest to an integer, unless it lies outside the finite range. -/
def ofInt? (n : Int) : Option Binary64 :=
  match ofInt n with
  | infinite _ => none
  | x => some x

/-- The signed mantissa of a finite number, scaled to the given smaller exponent. -/
def scaledTo (place : Int) (negative : Bool) (mantissa : Nat) (exponent : Int) : Int :=
  let magnitude : Nat := mantissa * Nat.pow 2 (exponent - place).toNat
  if negative then -(magnitude : Int) else magnitude

/-- The rounded value of `n * 2 ^ place`. -/
def ofScaled (n : Int) (place : Int) : Binary64 :=
  if place < 0 then ofRatio (n < 0) n.natAbs (Nat.pow 2 place.natAbs)
  else ofRatio (n < 0) (n.natAbs * Nat.pow 2 place.natAbs) 1

/-- The rounded sum. A sum of zeros is negative only if both are. -/
def add : Binary64 → Binary64 → Binary64
  | nan, _ => nan
  | _, nan => nan
  | infinite s, infinite t => if s = t then infinite s else nan
  | infinite s, finite .. => infinite s
  | finite .., infinite t => infinite t
  | finite s m e, finite t n f =>
    let place := min e f
    let total := scaledTo place s m e + scaledTo place t n f
    if total = 0 then finite (s && t && m == 0) 0 leastExponent else ofScaled total place

instance : Add Binary64 := ⟨add⟩

/-- The order of two numbers; none when either is not a number. The zeros are equal. -/
def compare? : Binary64 → Binary64 → Option Ordering
  | nan, _ => none
  | _, nan => none
  | infinite s, infinite t => some (compare t.toNat s.toNat)
  | infinite s, finite .. => some (if s then .lt else .gt)
  | finite .., infinite t => some (if t then .gt else .lt)
  | finite s m e, finite t n f =>
    let place := min e f
    some (compare (scaledTo place s m e) (scaledTo place t n f))

/-- Whether the first number is less than the second. -/
def blt (x y : Binary64) : Bool := compare? x y == some .lt

/-- Whether the first number is at most the second. -/
def ble (x y : Binary64) : Bool :=
  match compare? x y with
  | some .lt | some .eq => true
  | _ => false

/-- Whether the number is a zero of either sign. -/
def isZero : Binary64 → Bool
  | finite _ 0 _ => true
  | _ => false

/-- The integer part, toward zero, of a finite number. -/
def truncate? : Binary64 → Option Int
  | finite s m e =>
    let magnitude : Nat := if e < 0 then m / Nat.pow 2 e.natAbs else m * Nat.pow 2 e.natAbs
    some (if s then -(magnitude : Int) else magnitude)
  | _ => none

/-- The integer that a finite number is equal to, if there is one. -/
def toInt? : Binary64 → Option Int
  | finite s m e =>
    if e < 0 && m % Nat.pow 2 e.natAbs != 0 then none else truncate? (finite s m e)
  | _ => none

end Binary64

end JsonSeek
