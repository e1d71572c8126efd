/-!
# Sets of code points

A set of code points is written as its ascending list of boundaries: a code point lies in the set
exactly when an odd number of boundaries are at most it. The count is found by bisection.
-/

namespace JsonSeek.Text

/-- Bisects for the number of entries that are at most `x`, known to lie between `low` and
`high`. -/
def countUpToBetween (bounds : Array Nat) (x : Nat) : (fuel low high : Nat) → Nat
  | 0, low, _ => low
  | fuel + 1, low, high =>
    if high ≤ low then low
    else
      let middle := (low + high) / 2
      match bounds[middle]? with
      | none => low
      | some bound =>
        if bound ≤ x then countUpToBetween bounds x fuel (middle + 1) high
        else countUpToBetween bounds x fuel low middle

/-- How many entries of an ascending array are at most `x`. -/
def countUpTo (bounds : Array Nat) (x : Nat) : Nat :=
  countUpToBetween bounds x (bounds.size.log2 + 1) 0 bounds.size

/-- Whether the set with these boundaries holds the code point. -/
def holds (bounds : Array Nat) (codePoint : Nat) : Bool :=
  countUpTo bounds codePoint % 2 == 1

end JsonSeek.Text
