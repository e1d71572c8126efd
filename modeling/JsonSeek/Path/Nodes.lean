import JsonSeek.Path.Basic

/-!
# The nodes of a document

A node is a part of a document together with the path that leads to it. `Value.nodes` lists all of
them in document order: every value comes before its parts, fields come in the order of the text and
elements by index.
-/

namespace JsonSeek

/-- A part of a document with the path that leads to it. -/
structure Node where
  path : Path
  value : Value

/-- The depth of a node; the document itself has depth zero. -/
def Node.depth (node : Node) : Nat := node.path.length

namespace Value

mutual

/-- A value that the given path led to, followed by everything below it. -/
def nodesFrom (path : Path) : Value → List Node
  | .arr items => ⟨path, .arr items⟩ :: nodesOfItems path 0 items
  | .obj fields => ⟨path, .obj fields⟩ :: nodesOfFields path fields
  | v => [⟨path, v⟩]

/-- The nodes of the elements of an array, the first of which has the given index. -/
def nodesOfItems (path : Path) (i : Nat) : List Value → List Node
  | [] => []
  | v :: rest => nodesFrom (path ++ [.index i]) v ++ nodesOfItems path (i + 1) rest

/-- The nodes of the fields of an object. -/
def nodesOfFields (path : Path) : List (String × Value) → List Node
  | [] => []
  | (key, v) :: rest => nodesFrom (path ++ [.key key]) v ++ nodesOfFields path rest

end

/-- All nodes of a document in document order. -/
def nodes (document : Value) : List Node := nodesFrom [] document

end Value

end JsonSeek
