import JsonSeek.Text.CodePoints

/-!
# Digits

Decimal digits come in runs of ten consecutive code points, so the code points of the zeros
determine the value of every one. Digits that are no decimal digits, such as superscripts, belong
to `isDigitLike` only.
-/

namespace JsonSeek.Text

/-- The code points of the decimal zeros beyond ASCII. -/
def zeroDigits : Array Nat := #[
  1632, 1776, 1984, 2406, 2534, 2662, 2790, 2918, 3046, 3174, 3302, 3430, 3558, 3664, 3792, 3872,
  4160, 4240, 6112, 6160, 6470, 6608, 6784, 6800, 6992, 7088, 7232, 7248, 42528, 43216, 43264,
  43472, 43504, 43600, 44016, 65296, 66720, 68912, 69734, 69872, 69942, 70096, 70384, 70736,
  70864, 71248, 71360, 71472, 71904, 72016, 72784, 73040, 73120, 92768, 92864, 93008, 120782,
  120792, 120802, 120812, 120822, 123200, 123632, 125264, 130032]

/-- The boundaries of the digits without a place in a decimal notation. -/
def otherDigitBounds : Array Nat := #[
  178, 180, 185, 186, 4969, 4978, 6618, 6619, 8304, 8305, 8308, 8314, 8320, 8330, 9312, 9321,
  9332, 9341, 9352, 9361, 9450, 9451, 9461, 9470, 9471, 9472, 10102, 10111, 10112, 10121, 10122,
  10131, 68160, 68164, 69216, 69225, 69714, 69723, 127232, 127243]

/-- The value of a decimal digit of any script. -/
def decimalValue? (c : Char) : Option Nat :=
  if c.toNat < 128 then if c.isDigit then some (c.toNat - 48) else none
  else
    match zeroDigits[countUpTo zeroDigits c.toNat - 1]? with
    | none => none
    | some start => if start ≤ c.toNat && c.toNat < start + 10 then some (c.toNat - start) else none

/-- Whether a character is a decimal digit of any script. -/
def isDecimal (c : Char) : Bool := (decimalValue? c).isSome

/-- Whether a character is a digit of any kind, decimal or not. -/
def isDigitLike (c : Char) : Bool := isDecimal c || holds otherDigitBounds c.toNat

/-- The natural that decimal digits of any script write, most significant first. -/
def decimalNat (digits : List Char) : Nat :=
  digits.foldl (fun n c => 10 * n + (decimalValue? c).getD 0) 0

end JsonSeek.Text
