import JsonSeek.Toml.Value

/-!
# Documents under construction

A TOML document is put together statement by statement. A table remembers how it came to be, since a
header may open a table only once and dotted keys may not add to a table that a header or an earlier
section has opened. Values that are written out in one place never change.
-/

namespace JsonSeek.Toml

/-- How a table came to be. -/
inductive Opening
  /-- It was needed to hold another table. -/
  | asParent
  /-- The dotted keys of the section of the given number added to it. -/
  | byKeys (number : Nat)
  | byHeader
deriving DecidableEq

/-- What a key stands for. Of an array of tables the last one is open. -/
inductive Entry
  | value (v : Value)
  | table (opening : Opening) (entries : List (String × Entry))
  | tables (earlier : List (List (String × Entry))) (last : List (String × Entry))

/-- The entries of a table in the order in which their keys came up. -/
abbrev Entries := List (String × Entry)

/-- Changes the entry of a key, or adds one. -/
def alterAt (key : String) (change : Option Entry → Option Entry) : Entries → Option Entries
  | [] => (change none).map fun e => [(key, e)]
  | (other, e) :: rest =>
    if other = key then (change (some e)).map fun e => (key, e) :: rest
    else (alterAt key change rest).map ((other, e) :: ·)

/-- Changes the entries of the table that an entry stands for. A missing table is added. -/
def within (change : Entries → Option Entries) : Option Entry → Option Entry
  | none => (change []).map (.table .asParent)
  | some (.table opening entries) => (change entries).map (.table opening)
  | some (.tables earlier last) => (change last).map (.tables earlier)
  | some (.value _) => none

/-- Changes the entries of the table at the end of a path. -/
def alterUnder (change : Entries → Option Entries) : List String → Entries → Option Entries
  | [], entries => change entries
  | key :: rest, entries => alterAt key (within (alterUnder change rest)) entries

/-- Opens a table by its header. -/
def openTable : Option Entry → Option Entry
  | none => some (.table .byHeader [])
  | some (.table .asParent entries) => some (.table .byHeader entries)
  | some _ => none

/-- Adds a table to an array of tables. -/
def addTable : Option Entry → Option Entry
  | none => some (.tables [] [])
  | some (.tables earlier last) => some (.tables (earlier ++ [last]) [])
  | some _ => none

/-- Gives a new key a value. -/
def define (v : Value) : Option Entry → Option Entry
  | none => some (.value v)
  | some _ => none

/-- Changes the entries of a table that a dotted key of a section leads through. -/
def throughKeys (number : Nat) (change : Entries → Option Entries) : Option Entry → Option Entry
  | none => (change []).map (.table (.byKeys number))
  | some (.table .asParent entries) => (change entries).map (.table (.byKeys number))
  | some (.table (.byKeys earlier) entries) =>
    if earlier = number then (change entries).map (.table (.byKeys number)) else none
  | some _ => none

/-- Gives a dotted key a value. -/
def assign (number : Nat) (v : Value) : (parents : List String) → (key : String) → Entries →
    Option Entries
  | [], key, entries => alterAt key (define v) entries
  | parent :: rest, key, entries =>
    alterAt parent (throughKeys number (assign number v rest key)) entries

mutual

/-- The value that an entry stands for. -/
def Entry.toValue : Entry → Value
  | .value v => v
  | .table _ entries => .table (tableOf entries)
  | .tables earlier last => .arr (tablesOf earlier ++ [.table (tableOf last)])

/-- The fields that entries stand for. -/
def tableOf : List (String × Entry) → Table
  | [] => []
  | (key, e) :: rest => (key, e.toValue) :: tableOf rest

/-- The tables that lists of entries stand for. -/
def tablesOf : List (List (String × Entry)) → List Value
  | [] => []
  | entries :: rest => .table (tableOf entries) :: tablesOf rest

end

end JsonSeek.Toml
