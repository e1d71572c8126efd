import JsonSeek.Binary64.Basic

/-!
# TOML values

The values of a TOML document. Dates and times of day are kept apart from moments, which have both
and may have an offset from universal time.
-/

namespace JsonSeek.Toml

/-- A day of the calendar. -/
structure Date where
  year : Nat
  month : Nat
  day : Nat
deriving DecidableEq

/-- A time of day. -/
structure Time where
  hour : Nat
  minute : Nat
  second : Nat
  microsecond : Nat
deriving DecidableEq

/-- A TOML value. The offset of a moment is counted in minutes. -/
inductive Value
  | bool (b : Bool)
  | int (n : Int)
  | float (x : Binary64)
  | str (s : String)
  | date (d : Date)
  | time (t : Time)
  | moment (d : Date) (t : Time) (offset : Option Int)
  | arr (items : List Value)
  | table (fields : List (String × Value))

instance : Inhabited Value := ⟨.bool false⟩

/-- The fields of a document or a table, in the order of the text. -/
abbrev Table := List (String × Value)

end JsonSeek.Toml
