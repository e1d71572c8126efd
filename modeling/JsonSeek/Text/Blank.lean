/-!
# Blank characters

Whitespace in the sense of Unicode, with the four ASCII separators counted in, and the trimming of
texts.
-/

namespace JsonSeek.Text

/-- Whether a character is whitespace beyond ASCII. -/
def isWideBlank (c : Char) : Bool :=
  let n := c.toNat
  n == 0x85 || n == 0xa0 || n == 0x1680 || (0x2000 ≤ n && n ≤ 0x200a) || n == 0x2028 ||
    n == 0x2029 || n == 0x202f || n == 0x205f || n == 0x3000

/-- Whether a character is one of the six blanks of typed text: space, tab, line feed, vertical
tab, form feed or carriage return. -/
def isPlainBlank (c : Char) : Bool := c == ' ' || (9 ≤ c.toNat && c.toNat ≤ 13)

/-- Whether a character is whitespace. -/
def isBlank (c : Char) : Bool :=
  isPlainBlank c || (0x1c ≤ c.toNat && c.toNat ≤ 0x1f) || isWideBlank c

/-- Removes the leading characters that count as blank. -/
def trimStart (blank : Char → Bool) (s : List Char) : List Char := s.dropWhile blank

/-- Removes the leading and trailing characters that count as blank. -/
def trim (blank : Char → Bool) (s : List Char) : List Char :=
  ((s.dropWhile blank).reverse.dropWhile blank).reverse

/-- Removes leading and trailing whitespace. -/
def strip (s : List Char) : List Char := trim isBlank s

end JsonSeek.Text
