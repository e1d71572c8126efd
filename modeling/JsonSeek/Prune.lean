import JsonSeek.Path.Reader
import JsonSeek.Search.Result

/-!
# Pruning

A document is reduced to some of its nodes and to the containers above them. A node that was asked
for is kept whole. A container above such nodes keeps the parts that lead to them. In an array the
elements in front of a part that is kept become null, so that paths stay valid, unless
the array is to be compact.
-/

namespace JsonSeek.Prune

/-- What remains of paths that begin with a step, behind that step. -/
def below (step : Segment) (targets : List Path) : List Path :=
  targets.filterMap fun
    | [] => none
    | first :: rest => if first = step then some rest else none

/-- How the elements of an array that are left out are treated. -/
inductive Gaps
  | filled
  | closed
deriving DecidableEq

mutual

/-- What is kept of a value, the paths to the nodes that were asked for being given. -/
def reduce (gaps : Gaps) (targets : List Path) (v : Value) : Option Value :=
  if [] ∈ targets then some v
  else
    match v with
    | .obj fields =>
      match reduceFields gaps targets fields with
      | [] => none
      | kept => some (.obj kept)
    | .arr items =>
      match reduceItems gaps targets 0 0 items with
      | [] => none
      | kept => some (.arr kept)
    | _ => none

/-- What is kept of the fields of an object. -/
def reduceFields (gaps : Gaps) (targets : List Path) :
    List (String × Value) → List (String × Value)
  | [] => []
  | (key, v) :: rest =>
    match reduce gaps (below (.key key) targets) v with
    | some part => (key, part) :: reduceFields gaps targets rest
    | none => reduceFields gaps targets rest

/-- What is kept of the elements of an array, the first of which has the index `i`; the `gap`
elements in front of it were left out. -/
def reduceItems (gaps : Gaps) (targets : List Path) (i gap : Nat) : List Value → List Value
  | [] => []
  | v :: rest =>
    match reduce gaps (below (.index i) targets) v with
    | some part =>
      (if gaps = .filled then List.replicate gap .null else []) ++
        part :: reduceItems gaps targets (i + 1) 0 rest
    | none => reduceItems gaps targets (i + 1) (gap + 1) rest

end

/-- What takes the place of a document of which nothing is kept. -/
def emptied : Value → Value
  | .arr _ => .arr []
  | _ => .obj []

/-- A document reduced to the nodes at the given paths. Without any path it is left as it is. -/
def toPaths (gaps : Gaps) (targets : List Path) (document : Value) : Value :=
  if targets.isEmpty then document else (reduce gaps targets document).getD (emptied document)

/-- The path of a result. A result without segments is found by its spelling. -/
def pathOf (r : Search.Result) : Except (String × Path.Fault) Path :=
  if !r.segments.isEmpty || r.jsonPath = "" || r.jsonPath = "$" then .ok r.segments
  else (Path.read r.jsonPath).mapError fun fault => (r.jsonPath, fault)

/-- A document reduced to results. It fails with the first spelling that is no path. -/
def toResults (gaps : Gaps) (results : List Search.Result) (document : Value) :
    Except (String × Path.Fault) Value :=
  (results.mapM pathOf).map fun targets => toPaths gaps targets document

end JsonSeek.Prune
