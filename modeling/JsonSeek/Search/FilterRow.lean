import JsonSeek.Regex.Escape
import JsonSeek.Search.Options

/-!
# Filter rows

A filter row is one line of a form for advanced searches: where to look, how to compare, and with
what. The first row with a value that does not name a kind decides the query. Rows that name a kind
narrow what is reported.
-/

namespace JsonSeek.Search

/-- Where a filter row looks. -/
inductive RowField
  | any
  | key
  | value
  | path
  | kind
  | jsonPath
deriving DecidableEq

/-- How a filter row compares. -/
inductive RowOperator
  | contains
  | regex
  | fuzzy
  | startsWith
  | endsWith
  | jsonPath
deriving DecidableEq

/-- The field of the given name. -/
def RowField.ofName? : String → Option RowField
  | "any" => some any
  | "key" => some key
  | "value" => some value
  | "path" => some path
  | "type" => some kind
  | "jsonpath" => some jsonPath
  | _ => none

/-- The operator of the given name. -/
def RowOperator.ofName? : String → Option RowOperator
  | "contains" => some contains
  | "regex" => some regex
  | "fuzzy" => some fuzzy
  | "startsWith" => some startsWith
  | "endsWith" => some endsWith
  | "jsonpath" => some jsonPath
  | _ => none

/-- One line of a form for advanced searches. -/
structure FilterRow where
  field : RowField := .any
  operator : RowOperator := .contains
  value : String := ""
  caseSensitive : Bool := false

namespace FilterRow

/-- Why a row cannot be made. -/
inductive Fault
  | unknownField (name : String)
  | unknownOperator (name : String)
deriving DecidableEq

/-- The wording of a fault. -/
def Fault.message : Fault → String
  | unknownField name => "Unknown filter type: " ++ Text.quoted name
  | unknownOperator name => "Unknown filter operator: " ++ Text.quoted name

/-- The row that looks in the field and compares by the operator of the given names. -/
def ofNames (field operator value : String) (caseSensitive : Bool) : Except Fault FilterRow :=
  match RowField.ofName? field with
  | none => .error (.unknownField field)
  | some field =>
    match RowOperator.ofName? operator with
    | none => .error (.unknownOperator operator)
    | some operator => .ok { field, operator, value, caseSensitive }

/-- Whether a row has a value. -/
def isFilled (row : FilterRow) : Bool := row.value != ""

/-- Whether a row can decide the query. -/
def isPrimary (row : FilterRow) : Bool := row.isFilled && row.field != .kind

/-- The text query of a row, with its mode. A text at the start or the end is found by a pattern. -/
def textQuery (row : FilterRow) : String × Match.TextMode :=
  match row.operator with
  | .regex => (row.value, .regex)
  | .fuzzy => (row.value, .fuzzy)
  | .startsWith => (String.ofList ('^' :: Regex.escape row.value.toList), .regex)
  | .endsWith => (String.ofList (Regex.escape row.value.toList ++ ['$']), .regex)
  | .contains | .jsonPath => (row.value, .simple)

/-- The kinds that the rows narrow a search to. -/
def kindNames (rows : List FilterRow) : List String :=
  (rows.filter fun row => row.field == .kind && row.isFilled).map (·.value)

/-- What the rows search for, if one of them decides it. A path query leaves all else open. -/
def toRequest? (rows : List FilterRow) : Option Request :=
  (rows.find? isPrimary).map fun row =>
    if row.field = .jsonPath ∨ row.operator = .jsonPath then
      { query := row.value, mode := .jsonPath }
    else
      let (query, mode) := row.textQuery
      let kinds := kindNames rows
      { query
        mode := .text mode
        caseSensitive := some row.caseSensitive
        inKeys := some (row.field == .key || row.field == .any)
        inValues := some (row.field == .value || row.field == .any)
        inPaths := some (row.field == .path)
        kinds := if kinds.isEmpty then none else some kinds }

/-- A row as it is shown: the value with a hint at the operator. -/
def describe (row : FilterRow) : String :=
  match row.operator with
  | .regex => "/" ++ row.value ++ "/"
  | .startsWith => "^" ++ row.value
  | .endsWith => row.value ++ "$"
  | .contains | .fuzzy | .jsonPath => row.value

/-- The rows that have a value, as they are shown. -/
def describeAll (rows : List FilterRow) : String :=
  String.intercalate " " ((rows.filter isFilled).map describe)

end FilterRow

end JsonSeek.Search
