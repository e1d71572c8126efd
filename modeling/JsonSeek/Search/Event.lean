/-!
# Events of a search

What a search reports about its course, apart from its results.
-/

namespace JsonSeek.Search

/-- How important an event is. -/
inductive Level
  | debug
  | info
  | warning
deriving DecidableEq

/-- The name of a level. -/
def Level.name : Level → String
  | debug => "debug"
  | info => "info"
  | warning => "warning"

/-- Something that happens in the course of a search. -/
inductive Event
  | invalidQuery
  | malformedPattern
  | limitReached
  | finished
  | complete
deriving DecidableEq

namespace Event

/-- The importance of an event. -/
def level : Event → Level
  | invalidQuery | malformedPattern => .warning
  | limitReached | finished => .debug
  | complete => .info

/-- The wording of an event. -/
def message : Event → String
  | invalidQuery => "Invalid JSONPath, returning no results"
  | malformedPattern => "Invalid regex, treating as no match"
  | limitReached => "Search stopped at result limit"
  | finished => "Search finished"
  | complete => "Search complete"

/-- The line that reports an event. -/
def line (e : Event) : String := e.level.name ++ ": " ++ e.message

end Event

end JsonSeek.Search
