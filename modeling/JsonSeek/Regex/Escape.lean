/-!
# Texts as patterns
-/

namespace JsonSeek.Regex

/-- The characters that have a meaning in a pattern, in some mode. -/
def specialChars : List Char :=
  ['(', ')', '[', ']', '\x7b', '\x7d', '?', '*', '+', '-', '|', '^', '$', '\\', '.', '&', '~', '#',
    ' ', '\t', '\n', '\r', '\x0b', '\x0c']

/-- The pattern that matches exactly the given text. -/
def escape (text : List Char) : List Char :=
  text.flatMap fun c => if specialChars.contains c then ['\\', c] else [c]

end JsonSeek.Regex
