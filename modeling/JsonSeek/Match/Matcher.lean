import JsonSeek.Match.Fuzzy
import JsonSeek.Match.Simple
import JsonSeek.Regex.Find
import JsonSeek.Regex.Reader
import JsonSeek.Text.Lowercase
import JsonSeek.Text.Quoted

/-!
# Matchers

A matcher is a query prepared for one of the text modes. It is run on single texts and says whether
each matches, with which score and where. Unless case counts, the query and the texts are lowered
first, and the positions are those in the lowered text; patterns ignore case by themselves.
-/

namespace JsonSeek.Match

/-- The modes that match texts. -/
inductive TextMode
  | simple
  | regex
  | fuzzy
deriving DecidableEq

/-- The name of a text mode. -/
def TextMode.name : TextMode → String
  | simple => "simple"
  | regex => "regex"
  | fuzzy => "fuzzy"

/-- What a matcher says about a text. -/
structure Outcome where
  matched : Bool
  score : Binary64
  positions : List Span
deriving DecidableEq

/-- The outcome for a text that does not match. -/
def Outcome.none : Outcome := ⟨false, .zero, []⟩

/-- The score of a match in a mode that matches whole queries. -/
def fullScore : Binary64 := .ofInt 1

/-- The score of a subsequence match. -/
def fuzzyHitScore : Binary64 := .ofDecimal false 8 (-1)

/-- The threshold of a subsequence search that names none. -/
def defaultThreshold : Binary64 := .ofDecimal false 6 (-1)

/-- A text with its case removed, unless case counts. -/
def normalize (caseSensitive : Bool) (text : List Char) : List Char :=
  if caseSensitive then text else Text.lower text

/-- A query prepared for matching. A malformed pattern matches nothing. -/
inductive Matcher
  | simple (caseSensitive : Bool) (query : List Char)
  | regex (pattern : Option Regex.Pattern)
  | fuzzy (caseSensitive : Bool) (query : List Char) (threshold : Binary64)

/-- A pattern could not be prepared for a reason other than its form, or could not be run. -/
inductive PatternFault
  | repetitionTooLarge
  | codePointTooLarge
  | conflictingFlags
  | crossedGroup
deriving DecidableEq

/-- The wording of a fault. -/
def PatternFault.message : PatternFault → String
  | repetitionTooLarge => "the repetition number is too large"
  | codePointTooLarge => "the code point is too large"
  | conflictingFlags => "ASCII and UNICODE flags are incompatible"
  | crossedGroup => "a group of the match ends before it begins"

/-- The pattern that a text means, or none if it is malformed. -/
def compile (text : String) (caseSensitive : Bool) : Except PatternFault (Option Regex.Pattern) :=
  match Regex.Pattern.read (!caseSensitive) text with
  | .ok pattern => .ok (some pattern)
  | .error .malformed => .ok none
  | .error .repetitionTooLarge => .error .repetitionTooLarge
  | .error .codePointTooLarge => .error .codePointTooLarge
  | .error .conflictingFlags => .error .conflictingFlags

namespace Matcher

/-- Prepares a query. -/
def prepare (mode : TextMode) (query : String) (caseSensitive : Bool) (threshold : Binary64) :
    Except PatternFault Matcher :=
  match mode with
  | .simple => .ok (simple caseSensitive (normalize caseSensitive query.toList))
  | .fuzzy => .ok (fuzzy caseSensitive (normalize caseSensitive query.toList) threshold)
  | .regex => (compile query caseSensitive).map regex

/-- The mode of a matcher. -/
def mode : Matcher → TextMode
  | simple .. => .simple
  | regex _ => .regex
  | fuzzy .. => .fuzzy

/-- Whether the matcher holds a malformed pattern. -/
def isMalformed : Matcher → Bool
  | regex none => true
  | _ => false

/-- The outcome of a substring search. -/
def runSimple (caseSensitive : Bool) (query text : List Char) : Outcome :=
  let text := normalize caseSensitive text
  if occursIn query text then ⟨true, fullScore, occurrences query text⟩ else .none

/-- The outcome of a subsequence search. -/
def runFuzzy (caseSensitive : Bool) (query : List Char) (threshold : Binary64)
    (text : List Char) : Outcome :=
  let text := normalize caseSensitive text
  if fuzzyMatches text query threshold then
    ⟨true, fuzzyHitScore, (taken text query).map fun (i : Nat) => ⟨i, i + 1⟩⟩
  else .none

/-- The outcome of a pattern that matches at the given offsets. Empty matches count but have no
position. -/
def outcomeOfMatches (found : List (Nat × Nat)) : Outcome :=
  if found.isEmpty then .none
  else
    let shown := found.filter fun (start, stop) => start < stop
    ⟨true, fullScore, shown.map fun (start, stop) => ⟨start, stop⟩⟩

/-- Runs a matcher on a text. Only running a pattern can fail. -/
def run (m : Matcher) (text : List Char) : Except PatternFault Outcome :=
  match m with
  | simple caseSensitive query => .ok (runSimple caseSensitive query text)
  | regex none => .ok .none
  | regex (some pattern) =>
    match pattern.spans text with
    | .ok found => .ok (outcomeOfMatches found)
    | .error .closedFirst => .error .crossedGroup
  | fuzzy caseSensitive query threshold => .ok (runFuzzy caseSensitive query threshold text)

/-- A text with the spans of an outcome marked. -/
def markedBy (text opening closing : String) (outcome : Outcome) : String :=
  if outcome.matched && !outcome.positions.isEmpty then
    wrapSpans text opening closing outcome.positions
  else text

/-- The text with everything marked that the matcher finds in it. -/
def highlight (m : Matcher) (text opening closing : String) : Except PatternFault String :=
  (m.run text.toList).map (markedBy text opening closing)

end Matcher

/-! ## Registries -/

/-- Text modes by name, in the order in which the names were registered. -/
abbrev Registry := List (String × TextMode)

/-- Registers a mode under a name. The first registration of a name stays. -/
def Registry.register (r : Registry) (name : String) (mode : TextMode) : Registry :=
  if (r.lookup name).isSome then r else r ++ [(name, mode)]

/-- Why a registry yields no matcher. -/
inductive RegistryFault
  | unknownMode (name : String)
  | pattern (fault : PatternFault)
deriving DecidableEq

/-- The wording for a name that no mode is registered under. -/
def unknownModeMessage (name : String) : String := "Unknown search mode: " ++ Text.quoted name

/-- Prepares a query for the mode registered under a name. -/
def Registry.prepare (r : Registry) (name query : String) (caseSensitive : Bool)
    (threshold : Binary64) : Except RegistryFault Matcher :=
  match r.lookup name with
  | none => .error (.unknownMode name)
  | some mode => (Matcher.prepare mode query caseSensitive threshold).mapError .pattern

/-- The registry of the built-in modes. -/
def Registry.builtin : Registry := [("fuzzy", .fuzzy), ("regex", .regex), ("simple", .simple)]

end JsonSeek.Match
