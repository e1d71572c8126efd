import JsonSeek.Search.Options
import JsonSeek.Search.Result

/-!
# Searching the texts of a document

Every node has up to three texts: its label, its value if that is a string, and its path. A node
is reported if its kind is allowed and a matcher finds one of those texts that the options look
at. The document is walked in order, a value before its parts, but not below the greatest depth.
Once the limit of results is reached, the next node ends the whole walk.
-/

namespace JsonSeek.Search

/-- The texts of a node. -/
inductive Scope
  | key
  | value
  | path
deriving DecidableEq

/-- A text of a node that matched. -/
structure ScopeHit where
  scope : Scope
  text : String
  outcome : Match.Outcome

/-- The texts of a node that the options look at. -/
def Options.scopesOf (o : Options) (node : Node) : List (Scope × String) :=
  let keys := if o.inKeys then [(.key, node.path.label)] else []
  let values := match node.value with
    | .str s => if o.inValues then [(.value, s)] else []
    | _ => []
  let paths := if o.inPaths then [(.path, node.path.rooted)] else []
  keys ++ values ++ paths

/-- Whether nodes of a kind are reported. -/
def Options.allows (o : Options) (kind : Kind) : Bool :=
  match o.kinds with
  | none => true
  | some names => names.contains kind.name

/-- Whether a search looks at a node. -/
def Options.reaches (o : Options) (node : Node) : Bool :=
  match o.maxDepth with
  | none => true
  | some depth => node.depth ≤ depth

/-- Those of the given texts that match. -/
def hitsAmong (m : Match.Matcher) : List (Scope × String) →
    Except Match.PatternFault (List ScopeHit)
  | [] => .ok []
  | (scope, text) :: rest =>
    match m.run text.toList with
    | .error fault => .error fault
    | .ok outcome =>
      (hitsAmong m rest).map fun hits =>
        if outcome.matched then ⟨scope, text, outcome⟩ :: hits else hits

/-- The texts of a node that the options look at and that match. -/
def scopeHits (m : Match.Matcher) (o : Options) (node : Node) :
    Except Match.PatternFault (List ScopeHit) :=
  hitsAmong m (o.scopesOf node)

/-- The sum of the scores of the texts that matched. -/
def totalScore (hits : List ScopeHit) : Binary64 :=
  hits.foldl (fun sum hit => sum.add hit.outcome.score) .zero

/-- What is recorded about the texts that matched; the last one is the one to be marked. -/
def Hits.ofScopes (hits : List ScopeHit) : Hits where
  inKey := hits.any (·.scope = .key)
  inValue := hits.any (·.scope = .value)
  inPath := hits.any (·.scope = .path)
  text := hits.getLast?.map (·.text)
  positions := match hits.getLast? with
    | some hit => hit.outcome.positions
    | none => []

/-- The result for a node of which the given texts match, if there are any. -/
def resultOf (o : Options) (node : Node) (hits : List ScopeHit) : Option Result :=
  if hits.isEmpty then none
  else some (.ofNode node (totalScore hits) (.ofScopes hits) o.withAncestors)

/-- The result for a node, if it is reported. -/
def judge (m : Match.Matcher) (o : Options) (node : Node) :
    Except Match.PatternFault (Option Result) :=
  if o.allows node.value.kind then (scopeHits m o node).map (resultOf o node) else .ok none

/-- How far a scan has come: the results found so far in document order, the greatest depth that was
read, and whether the limit has stopped it. -/
structure Scan where
  results : List Result
  deepest : Nat
  truncated : Bool

/-- A scan that has read nothing yet. -/
def Scan.start : Scan := ⟨[], 0, false⟩

/-- A scan that has read one more node, which gave a result or none. -/
def Scan.read (scan : Scan) (node : Node) (result : Option Result) : Scan where
  results := scan.results ++ result.toList
  deepest := max scan.deepest node.depth
  truncated := scan.truncated

/-- What ends a scan before the end of the document. -/
inductive Halt
  | limit (scan : Scan)
  | fault (f : Match.PatternFault)

/-- Reads one node, unless the limit has been reached. -/
def readNode (m : Match.Matcher) (o : Options) (scan : Scan) (node : Node) : Except Halt Scan :=
  if o.limit ≤ scan.results.length then .error (.limit { scan with truncated := true })
  else
    match judge m o node with
    | .error f => .error (.fault f)
    | .ok result => .ok (scan.read node result)

/-- Reads a node and goes on below it. A node that lies too deep is left alone, and so is everything
below it. -/
def enter (m : Match.Matcher) (o : Options) (scan : Scan) (node : Node)
    (below : Scan → Except Halt Scan) : Except Halt Scan :=
  if o.reaches node then
    match readNode m o scan node with
    | .error halt => .error halt
    | .ok scan => below scan
  else .ok scan

mutual

/-- Scans a value that the given path led to, and then everything below it. -/
def visit (m : Match.Matcher) (o : Options) (path : Path) (scan : Scan) :
    Value → Except Halt Scan
  | .arr items => enter m o scan ⟨path, .arr items⟩ fun scan => visitItems m o path 0 scan items
  | .obj fields => enter m o scan ⟨path, .obj fields⟩ fun scan => visitFields m o path scan fields
  | v => enter m o scan ⟨path, v⟩ .ok

/-- Scans the elements of an array, the first of which has the given index. -/
def visitItems (m : Match.Matcher) (o : Options) (path : Path) (i : Nat) (scan : Scan) :
    List Value → Except Halt Scan
  | [] => .ok scan
  | v :: rest =>
    match visit m o (path ++ [.index i]) scan v with
    | .error halt => .error halt
    | .ok scan => visitItems m o path (i + 1) scan rest

/-- Scans the fields of an object. -/
def visitFields (m : Match.Matcher) (o : Options) (path : Path) (scan : Scan) :
    List (String × Value) → Except Halt Scan
  | [] => .ok scan
  | (key, v) :: rest =>
    match visit m o (path ++ [.key key]) scan v with
    | .error halt => .error halt
    | .ok scan => visitFields m o path scan rest

end

/-- Searches the texts of a document. -/
def scanTexts (m : Match.Matcher) (o : Options) (document : Value) :
    Except Match.PatternFault Scan :=
  match visit m o [] .start document with
  | .ok scan => .ok scan
  | .error (.limit scan) => .ok scan
  | .error (.fault f) => .error f

end JsonSeek.Search
