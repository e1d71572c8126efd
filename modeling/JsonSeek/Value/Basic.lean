import JsonSeek.Binary64.Basic

/-!
# JSON values

A document is a `Value`. Objects keep their fields in the order of the text; in a document that was
read from text the keys of every object are distinct. Integers are unbounded and apart from
doubles.

`Value.children` lists the direct parts of a value with the step that leads to each.
-/

namespace JsonSeek

/-- A JSON value. -/
inductive Value
  | null
  | bool (b : Bool)
  | int (n : Int)
  | float (x : Binary64)
  | str (s : String)
  | arr (items : List Value)
  | obj (fields : List (String × Value))

instance : Inhabited Value := ⟨.null⟩

/-- The kinds of values that a search can be narrowed to. -/
inductive Kind
  | null
  | array
  | object
  | string
  | number
  | boolean
deriving DecidableEq

/-- The name of a kind. -/
def Kind.name : Kind → String
  | null => "null"
  | array => "array"
  | object => "object"
  | string => "string"
  | number => "number"
  | boolean => "boolean"

/-- All kinds. -/
def Kind.all : List Kind := [null, array, object, string, number, boolean]

/-- One step into a value: a field of an object or an element of an array. An index may be any
integer; one that is negative leads nowhere. -/
inductive Segment
  | key (name : String)
  | index (i : Int)
deriving DecidableEq

namespace Value

/-- The kind of a value. -/
def kind : Value → Kind
  | null => .null
  | bool _ => .boolean
  | int _ | float _ => .number
  | str _ => .string
  | arr _ => .array
  | obj _ => .object

/-- Whether a value has parts. -/
def isContainer : Value → Bool
  | arr _ | obj _ => true
  | _ => false

/-- The elements of an array with their indices, from the given index on. -/
def indexed : Nat → List Value → List (Segment × Value)
  | _, [] => []
  | i, v :: rest => (.index i, v) :: indexed (i + 1) rest

/-- The parts of a value in document order, each with the step that leads to it. -/
def children : Value → List (Segment × Value)
  | arr items => indexed 0 items
  | obj fields => fields.map fun (name, v) => (.key name, v)
  | _ => []

/-- The value of the first field with the given key. -/
def field? (name : String) : List (String × Value) → Option Value
  | [] => none
  | (key, v) :: rest => if key = name then some v else field? name rest

/-- Replaces the value of a key where it first stood, or appends a new field. -/
def setField (name : String) (v : Value) : List (String × Value) → List (String × Value)
  | [] => [(name, v)]
  | (key, w) :: rest =>
    if key = name then (key, v) :: rest else (key, w) :: setField name v rest

end Value

end JsonSeek
