import JsonSeek.Settings.Basic
import JsonSeek.Text.Quoted

/-!
# Search options

A `Request` says what to search for and leaves open what it does not care about. `Request.fill`
completes it from the settings.
-/

namespace JsonSeek.Search

/-- How a query is read: as a text to be matched, or as a path query. -/
inductive Mode
  | text (mode : Match.TextMode)
  | jsonPath
deriving DecidableEq

namespace Mode

/-- The name of a mode. -/
def name : Mode → String
  | text mode => mode.name
  | jsonPath => "jsonpath"

/-- All modes. -/
def all : List Mode := [text .simple, text .regex, text .fuzzy, jsonPath]

/-- The mode of the given name. -/
def ofName? (name : String) : Option Mode := all.find? fun mode => mode.name == name

/-- The wording for a name that no mode has. -/
def unknownMessage (name : String) : String := Text.quoted name ++ " is not a valid SearchMode"

end Mode

/-- What to search for and where. -/
structure Options where
  query : String
  mode : Mode
  caseSensitive : Bool
  inKeys : Bool
  inValues : Bool
  inPaths : Bool
  /-- The names of the kinds that are reported, if not all are. -/
  kinds : Option (List String)
  /-- The depth below which the search does not descend. -/
  maxDepth : Option Int
  threshold : Binary64
  /-- Whether results name their ancestors. -/
  withAncestors : Bool
  /-- The number of results after which the search stops. -/
  limit : Int

/-- Search options of which some are left open. -/
structure Request where
  query : String
  mode : Mode := .text .simple
  caseSensitive : Option Bool := none
  inKeys : Option Bool := none
  inValues : Option Bool := none
  inPaths : Option Bool := none
  kinds : Option (List String) := none
  maxDepth : Option Int := none
  threshold : Option Binary64 := none
  withAncestors : Bool := false
  limit : Option Int := none

/-- The options of a request; what it leaves open is taken from the settings. -/
def Request.fill (settings : Settings) (r : Request) : Options where
  query := r.query
  mode := r.mode
  caseSensitive := r.caseSensitive.getD settings.caseSensitive
  inKeys := r.inKeys.getD settings.searchKeys
  inValues := r.inValues.getD settings.searchValues
  inPaths := r.inPaths.getD settings.searchPaths
  kinds := r.kinds
  maxDepth := match r.maxDepth with
    | some depth => some depth
    | none => settings.maxDepth
  threshold := r.threshold.getD settings.fuzzyThreshold
  withAncestors := r.withAncestors
  limit := r.limit.getD settings.resultLimit

/-- The kinds that are reported, in order and without repetition. -/
def Options.allowedKinds (o : Options) : Option (List String) :=
  o.kinds.map fun names => (names.mergeSort fun a b => decide (a ≤ b)).eraseDups

end JsonSeek.Search
