/-!
# Digits in groups of three
-/

namespace JsonSeek.Text

/-- Puts a comma after every third digit, counted from the front; `filled` digits of the current
group have been written. -/
def groupFrom : (filled : Nat) → List Char → List Char
  | _, [] => []
  | filled, c :: rest =>
    if filled = 3 then ',' :: c :: groupFrom 1 rest else c :: groupFrom (filled + 1) rest

/-- A natural in decimal notation, its digits in groups of three. -/
def groupedNat (n : Nat) : String :=
  String.ofList (groupFrom 0 (Nat.toDigits 10 n).reverse).reverse

/-- An integer in decimal notation, its digits in groups of three. -/
def groupedInt (n : Int) : String :=
  if n < 0 then "-" ++ groupedNat n.natAbs else groupedNat n.natAbs

end JsonSeek.Text
