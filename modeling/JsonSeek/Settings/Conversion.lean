import JsonSeek.Text.Lowercase
import JsonSeek.Text.Numeral
import JsonSeek.Toml.Display

/-!
# Converting values to settings

A setting takes whatever can be understood as a value of its type. Texts are read as people type
them, numbers are cut to integers, and everything has a truth value. Only a number out of range is
a fault of its own; everything else that cannot be converted is invalid.
-/

namespace JsonSeek.Settings

/-- Why a value is no value of a setting. -/
inductive Fault
  | invalid
  | infiniteInteger
  | integerTooLarge
deriving DecidableEq

/-- The wording of a fault. -/
def Fault.message : Fault → String
  | invalid => "invalid value"
  | infiniteInteger => "cannot convert float infinity to integer"
  | integerTooLarge => "int too large to convert to float"

/-- A text in lower case. -/
def lowered (s : String) : String := String.ofList (Text.lower s.toList)

/-- Whether a text says yes. -/
def flagOfText (s : String) : Bool := ["true", "1", "yes"].contains (lowered s)

/-- The truth of a value: texts have to say yes, all else has to be different from zero or not
empty. -/
def flagOf : Toml.Value → Bool
  | .bool b => b
  | .int n => n != 0
  | .float x => !x.isZero
  | .str s => flagOfText s
  | .date _ | .time _ | .moment .. => true
  | .arr items => !items.isEmpty
  | .table fields => !fields.isEmpty

/-- The integer that a value means. -/
def integerOf : Toml.Value → Except Fault Int
  | .bool b => .ok (if b then 1 else 0)
  | .int n => .ok n
  | .float x =>
    match x.truncate? with
    | some n => .ok n
    | none => .error (if x = .nan then .invalid else .infiniteInteger)
  | .str s =>
    match Text.readInt? s.toList with
    | some n => .ok n
    | none => .error .invalid
  | _ => .error .invalid

/-- The double that a value means. -/
def numberOf : Toml.Value → Except Fault Binary64
  | .bool b => .ok (.ofInt (if b then 1 else 0))
  | .int n =>
    match Binary64.ofInt? n with
    | some x => .ok x
    | none => .error .integerTooLarge
  | .float x => .ok x
  | .str s =>
    match Text.readBinary64? s.toList with
    | some x => .ok x
    | none => .error .invalid
  | _ => .error .invalid

/-- The bound that a value means; texts can say that there is none. -/
def boundOf (v : Toml.Value) : Except Fault (Option Int) :=
  match v with
  | .str s =>
    if ["", "none"].contains (lowered s) then .ok none else (integerOf v).map some
  | _ => (integerOf v).map some

end JsonSeek.Settings
