import JsonSeek.Settings.Basic
import JsonSeek.Settings.Conversion
import JsonSeek.Text.Utf8
import JsonSeek.Toml.Reader

/-!
# Where settings come from

Settings are given in a configuration file and in the environment. A file that cannot be used, be
it only for one of its values, gives no settings at all. A variable that cannot be used gives none
itself. Variables go before the file, and the file before the defaults.
-/

namespace JsonSeek.Settings

/-! ## The configuration file -/

/-- The value of a setting in its group. A group that is no table holds no settings, but it is
invalid if it mentions one. -/
def settingIn? (group : Toml.Value) (key : String) : Except Fault (Option Toml.Value) :=
  match group with
  | .table fields => .ok (fields.lookup key)
  | .arr items =>
    if items.any (fun | .str s => s == key | _ => false) then .error .invalid else .ok none
  | .str s => if Match.occursIn key.toList s.toList then .error .invalid else .ok none
  | _ => .error .invalid

/-- A setting in its group, converted. -/
def convertIn {α : Type} (group : Toml.Value) (key : String)
    (convert : Toml.Value → Except Fault α) : Except Fault (Option α) := do
  match ← settingIn? group key with
  | none => return none
  | some v => return some (← convert v)

/-- The group of settings of the given name; a missing one is empty. -/
def groupIn (document : Toml.Table) (name : String) : Toml.Value :=
  (document.lookup name).getD (.table [])

/-- What a configuration document sets. The settings are converted one after the other. -/
def overridesOf (document : Toml.Table) : Except Fault Overrides := do
  let flag (v : Toml.Value) : Except Fault Bool := .ok (flagOf v)
  let text (v : Toml.Value) : Except Fault String := .ok v.text
  let search := groupIn document "search"
  let caseSensitive ← convertIn search "case_sensitive" flag
  let searchKeys ← convertIn search "search_in_keys" flag
  let searchValues ← convertIn search "search_in_values" flag
  let searchPaths ← convertIn search "search_in_paths" flag
  let fuzzyThreshold ← convertIn search "fuzzy_threshold" numberOf
  let resultLimit ← convertIn search "limit" integerOf
  let maxDepth ← convertIn search "max_depth" boundOf
  let output := groupIn document "output"
  let outputLimit ← convertIn output "limit" integerOf
  let indent ← convertIn output "indent" integerOf
  let openMark ← convertIn output "highlight_open" text
  let closeMark ← convertIn output "highlight_close" text
  let previewLength ← convertIn output "preview_chars" integerOf
  let files := groupIn document "io"
  let maxFileSize ← convertIn files "max_file_size" integerOf
  return ⟨caseSensitive, searchKeys, searchValues, searchPaths, fuzzyThreshold, resultLimit,
    maxDepth, outputLimit, indent, openMark, closeMark, previewLength, maxFileSize⟩

/-- What the bytes of a configuration file set. Only a number out of range is a fault. -/
def overridesOfFile (bytes : List UInt8) : Except Fault Overrides :=
  match Text.decodeUtf8 bytes with
  | .error _ => .ok {}
  | .ok chars =>
    match Toml.read (String.ofList chars) with
    | none => .ok {}
    | some document =>
      match overridesOf document with
      | .error .invalid => .ok {}
      | overrides => overrides

/-! ## The environment -/

/-- The variables of an environment. -/
abbrev Environment := List (String × String)

/-- The value of a variable, converted; nothing if it is missing or cannot be converted. -/
def readVariable {α : Type} (environment : Environment) (name : String)
    (convert : Toml.Value → Except Fault α) : Option α :=
  (environment.lookup name).bind fun value => (convert (.str value)).toOption

/-- What the environment sets. -/
def overridesOfEnvironment (environment : Environment) : Overrides where
  caseSensitive := (environment.lookup "JSCOPE_CASE_SENSITIVE").map flagOfText
  searchKeys := (environment.lookup "JSCOPE_SEARCH_KEYS").map flagOfText
  searchValues := (environment.lookup "JSCOPE_SEARCH_VALUES").map flagOfText
  searchPaths := (environment.lookup "JSCOPE_SEARCH_PATHS").map flagOfText
  fuzzyThreshold := readVariable environment "JSCOPE_FUZZY_THRESHOLD" numberOf
  resultLimit := readVariable environment "JSCOPE_RESULT_LIMIT" integerOf
  maxDepth := readVariable environment "JSCOPE_MAX_DEPTH" boundOf
  outputLimit := readVariable environment "JSCOPE_OUTPUT_LIMIT" integerOf
  indent := readVariable environment "JSCOPE_INDENT" integerOf
  previewLength := readVariable environment "JSCOPE_PREVIEW_CHARS" integerOf
  maxFileSize := readVariable environment "JSCOPE_MAX_FILE_SIZE" integerOf

/-- The settings under an environment and a configuration file, if there is one. -/
def load (environment : Environment) (file : Option (List UInt8)) : Except Fault Settings :=
  let fromFile : Except Fault Overrides := match file with
    | none => .ok {}
    | some bytes => overridesOfFile bytes
  fromFile.map fun overrides =>
    (default.overriddenBy overrides).overriddenBy (overridesOfEnvironment environment)

end JsonSeek.Settings
