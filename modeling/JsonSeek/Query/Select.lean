import JsonSeek.Path.Nodes
import JsonSeek.Query.Token

/-!
# Selecting by a query

The tokens of a query are applied one after the other to a value and the path that led to it. What
is left when the tokens run out is selected, in document order. A token that fits nothing selects
nothing; only a condition on a number beyond the range of doubles fails.
-/

namespace JsonSeek.Query

/-- The selected nodes, or the failure of a condition. -/
abbrev Selection := Except Overflow (List Node)

/-- Two selections, one after the other. -/
def Selection.append (first second : Selection) : Selection :=
  match first with
  | .error e => .error e
  | .ok found =>
    match second with
    | .error e => .error e
    | .ok more => .ok (found ++ more)

/-- The selections from several parts, one after the other. -/
def gather {α : Type} (select : α → Selection) : List α → Selection
  | [] => .ok []
  | a :: rest => (select a).append (gather select rest)

/-- Whether an index belongs to a slice of an array of the given length. Bounds below zero count
from the end of the array; a step that is not positive leaves nothing. -/
def inSlice (start stop step : Option Int) (length i : Nat) : Bool :=
  let stride := step.getD 1
  let bound (n : Int) : Int := if n < 0 then max 0 (length + n) else n
  let first := bound (start.getD 0)
  let last := min (bound (stop.getD length)) length
  0 < stride && first ≤ i && i < last && (i - first) % stride == 0

/-- The elements that a filter keeps, tested one by one before each is followed. -/
def fromMeeting (comparison : Comparison) (select : Nat → Value → Selection) :
    Nat → List Value → Selection
  | _, [] => .ok []
  | i, v :: rest =>
    match comparison.test v with
    | .error e => .error e
    | .ok keep =>
      Selection.append (if keep then select i v else .ok [])
        (fromMeeting comparison select (i + 1) rest)

mutual

/-- Applies a selection to a value that the given path led to, and then to everything below it. -/
def selectDeep (select : Path → Value → Selection) (path : Path) : Value → Selection
  | .arr items => (select path (.arr items)).append (selectDeepItems select path 0 items)
  | .obj fields => (select path (.obj fields)).append (selectDeepFields select path fields)
  | v => select path v

/-- Applies a selection to the elements of an array, the first of which has the given index, and to
everything below them. -/
def selectDeepItems (select : Path → Value → Selection) (path : Path) (i : Nat) :
    List Value → Selection
  | [] => .ok []
  | v :: rest =>
    (selectDeep select (path ++ [.index i]) v).append (selectDeepItems select path (i + 1) rest)

/-- Applies a selection to the fields of an object and to everything below them. -/
def selectDeepFields (select : Path → Value → Selection) (path : Path) :
    List (String × Value) → Selection
  | [] => .ok []
  | (key, v) :: rest =>
    (selectDeep select (path ++ [.key key]) v).append (selectDeepFields select path rest)

end

/-- Applies tokens to a value that the given path led to. The root token forgets that path. -/
def select : List Token → Path → Value → Selection
  | [], path, v => .ok [⟨path, v⟩]
  | .root :: rest, _, v => select rest [] v
  | .property name :: rest, path, v =>
    match v with
    | .obj fields =>
      match Value.field? name fields with
      | some part => select rest (path ++ [.key name]) part
      | none => .ok []
    | _ => .ok []
  | .index i :: rest, path, v =>
    match v with
    | .arr items =>
      match if i < 0 then none else items[i.toNat]? with
      | some part => select rest (path ++ [.index i]) part
      | none => .ok []
    | _ => .ok []
  | .wildcard :: rest, path, v =>
    gather (fun (step, part) => select rest (path ++ [step]) part) v.children
  | .descent :: rest, path, v => selectDeep (select rest) path v
  | .filter _ comparison :: rest, path, v =>
    match v, comparison with
    | .arr items, some comparison =>
      fromMeeting comparison (fun i part => select rest (path ++ [.index i]) part) 0 items
    | _, _ => .ok []
  | .slice start stop step :: rest, path, v =>
    match v with
    | .arr items =>
      gather (fun (i, part) => select rest (path ++ [.index (i : Nat)]) part)
        ((List.range items.length).zip items |>.filter fun (i, _) =>
          inSlice start stop step items.length i)
    | _ => .ok []

/-- Why a query yields no selection. -/
inductive Fault
  | unrooted (e : Unrooted)
  | overflow (e : Overflow)

/-- Everything in a document that a query selects. -/
def run (query : String) (document : Value) : Except Fault (List Node) :=
  match tokenize query with
  | .error e => .error (.unrooted e)
  | .ok tokens => (select tokens [] document).mapError .overflow

end JsonSeek.Query
