import JsonSeek.Match.Matcher

/-!
# Settings

What a search or a report assumes unless it is told otherwise. `Overrides` hold values for some of
the settings, and `Settings.overriddenBy` puts them in place of the values that were there.
Overrides are laid one over another in the same way.
-/

namespace JsonSeek

/-- The settings of searches, of reports, and of reading files. -/
structure Settings where
  /-- Whether case counts in text searches. -/
  caseSensitive : Bool
  searchKeys : Bool
  searchValues : Bool
  searchPaths : Bool
  /-- The share of a query that a subsequence search has to find. -/
  fuzzyThreshold : Binary64
  /-- The number of results after which a search stops. -/
  resultLimit : Int
  /-- The depth below which a search does not descend, if there is one. -/
  maxDepth : Option Int
  /-- The number of characters to which a report is cut; none below one. -/
  outputLimit : Int
  indent : Int
  openMark : String
  closeMark : String
  previewLength : Int
  /-- The number of bytes above which a file is not read. -/
  maxFileSize : Int
deriving DecidableEq

namespace Settings

/-- The settings without any configuration. -/
def default : Settings where
  caseSensitive := false
  searchKeys := true
  searchValues := true
  searchPaths := false
  fuzzyThreshold := Match.defaultThreshold
  resultLimit := 1000
  maxDepth := none
  outputLimit := 20000
  indent := 2
  openMark := "[["
  closeMark := "]]"
  previewLength := 60
  maxFileSize := 52428800

/-- Values for some of the settings. -/
structure Overrides where
  caseSensitive : Option Bool := none
  searchKeys : Option Bool := none
  searchValues : Option Bool := none
  searchPaths : Option Bool := none
  fuzzyThreshold : Option Binary64 := none
  resultLimit : Option Int := none
  maxDepth : Option (Option Int) := none
  outputLimit : Option Int := none
  indent : Option Int := none
  openMark : Option String := none
  closeMark : Option String := none
  previewLength : Option Int := none
  maxFileSize : Option Int := none
deriving DecidableEq

/-- The settings with the given values put in. -/
def overriddenBy (s : Settings) (o : Overrides) : Settings where
  caseSensitive := o.caseSensitive.getD s.caseSensitive
  searchKeys := o.searchKeys.getD s.searchKeys
  searchValues := o.searchValues.getD s.searchValues
  searchPaths := o.searchPaths.getD s.searchPaths
  fuzzyThreshold := o.fuzzyThreshold.getD s.fuzzyThreshold
  resultLimit := o.resultLimit.getD s.resultLimit
  maxDepth := o.maxDepth.getD s.maxDepth
  outputLimit := o.outputLimit.getD s.outputLimit
  indent := o.indent.getD s.indent
  openMark := o.openMark.getD s.openMark
  closeMark := o.closeMark.getD s.closeMark
  previewLength := o.previewLength.getD s.previewLength
  maxFileSize := o.maxFileSize.getD s.maxFileSize

end Settings

end JsonSeek
