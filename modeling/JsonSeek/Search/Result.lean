import JsonSeek.Match.Spans
import JsonSeek.Binary64.Basic
import JsonSeek.Path.Nodes

/-!
# Search results

A result describes a node that was found: where it stands, what it holds, and which of its texts
matched. Results may also be put together by hand, so that the fields need not fit each other.
-/

namespace JsonSeek.Search

/-- Which texts of a node matched, and what is to be marked. -/
structure Hits where
  inKey : Bool := false
  inValue : Bool := false
  inPath : Bool := false
  /-- The text that matched last. -/
  text : Option String := none
  /-- The spans of that text that matched. -/
  positions : List Match.Span := []
deriving DecidableEq

/-- A node that was found. -/
structure Result where
  /-- The canonical spelling of the path. -/
  path : String
  /-- The rooted spelling of the path. -/
  jsonPath : String
  key : String
  value : Value
  /-- The canonical spelling of the path to the parent. -/
  parentPath : String
  depth : Int
  /-- The name of the kind of the value. -/
  kind : String
  score : Binary64
  hits : Hits
  segments : Path
  /-- The rooted spellings of the paths to the ancestors, if they were asked for. -/
  ancestors : Option (List String)

/-- The result for a node. -/
def Result.ofNode (node : Node) (score : Binary64) (hits : Hits) (withAncestors : Bool) :
    Result where
  path := node.path.canonical
  jsonPath := node.path.rooted
  key := node.path.label
  value := node.value
  parentPath := Path.canonical node.path.dropLast
  depth := node.depth
  kind := node.value.kind.name
  score := score
  hits := hits
  segments := node.path
  ancestors := if withAncestors then some node.path.ancestors else none

end JsonSeek.Search
