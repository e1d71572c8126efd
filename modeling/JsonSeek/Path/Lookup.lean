import JsonSeek.Path.Basic

/-!
# Following a path

`Value.step?` takes one step into a value and `Value.lookup` a whole path. A path fails at the
first step that leads nowhere: an index out of range, a key that is not there, or a step of the
wrong kind.
-/

namespace JsonSeek.Value

/-- The part that one step leads to. -/
def step? : Value → Segment → Option Value
  | arr items, .index i => if i < 0 then none else items[i.toNat]?
  | obj fields, .key name => field? name fields
  | _, _ => none

/-- The part that a path leads to, or the first step that leads nowhere. -/
def lookup (v : Value) : Path → Except Segment Value
  | [] => .ok v
  | step :: rest =>
    match v.step? step with
    | none => .error step
    | some part => part.lookup rest

/-- The part that a path leads to, if there is one. -/
def get? (v : Value) (path : Path) : Option Value := (v.lookup path).toOption

end JsonSeek.Value

namespace JsonSeek.Path

/-- The wording for a path that leads nowhere. -/
def missingMessage (path : Path) (missing : Segment) : String :=
  "No value at " ++ rooted path ++ ": missing step " ++ missing.label

end JsonSeek.Path
