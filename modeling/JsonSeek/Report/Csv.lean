/-!
# Comma-separated values

A record is a line of fields with commas between them, ended by a line feed. A field that holds a
comma, a quote or a line feed is put in quotes, and the quotes in it are doubled; any other field is
written as it is. A carriage return is a character like others; newer writers put a field that holds
one in quotes as well.
-/

namespace JsonSeek.Report.Csv

/-- Whether a character can stand in a field only within quotes. -/
def isSpecial (c : Char) : Bool := c == ',' || c == '"' || c == '\n'

/-- A character within quotes. -/
def escapeChar (c : Char) : List Char := if c == '"' then ['"', '"'] else [c]

/-- A field as it stands in a record. -/
def writeField (field : List Char) : List Char :=
  if field.any isSpecial then '"' :: (field.flatMap escapeChar ++ ['"']) else field

/-- A record without its line feed. -/
def writeRecord (fields : List String) : List Char :=
  List.intercalate [','] (fields.map fun field => writeField field.toList)

/-- Records, each with its line feed. -/
def write (records : List (List String)) : List Char :=
  records.flatMap fun fields => writeRecord fields ++ ['\n']

end JsonSeek.Report.Csv
