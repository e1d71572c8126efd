import JsonSeek.Settings.Source

/-!
# Layers of settings

Each setting is taken from the first source that has a value for it: its variable in the
environment, its field in the configuration file, its default (`load_eq_layers`). A variable that
cannot be converted is as good as a missing one. A file with one field that cannot be converted is
as good as a missing file, so that no value in front of that field is left behind.
-/

namespace JsonSeek

namespace Settings

/-- The settings by name. -/
inductive Setting
  | caseSensitive
  | searchKeys
  | searchValues
  | searchPaths
  | fuzzyThreshold
  | resultLimit
  | maxDepth
  | outputLimit
  | indent
  | openMark
  | closeMark
  | previewLength
  | maxFileSize
deriving DecidableEq

namespace Setting

/-- All settings. -/
def all : List Setting :=
  [caseSensitive, searchKeys, searchValues, searchPaths, fuzzyThreshold, resultLimit, maxDepth,
    outputLimit, indent, openMark, closeMark, previewLength, maxFileSize]

theorem mem_all (s : Setting) : s ∈ all := by
  cases s <;> decide

instance {p : Setting → Prop} [DecidablePred p] : Decidable (∀ s, p s) :=
  decidable_of_iff (∀ s ∈ all, p s) ⟨fun every s => every s (mem_all s), fun every s _ => every s⟩

/-- What the values of a setting are. -/
abbrev Value : Setting → Type
  | caseSensitive | searchKeys | searchValues | searchPaths => Bool
  | fuzzyThreshold => Binary64
  | maxDepth => Option Int
  | openMark | closeMark => String
  | resultLimit | outputLimit | indent | previewLength | maxFileSize => Int

/-- The table of a configuration file in which a setting stands. -/
def group : Setting → String
  | caseSensitive | searchKeys | searchValues | searchPaths | fuzzyThreshold | resultLimit
  | maxDepth => "search"
  | outputLimit | indent | openMark | closeMark | previewLength => "output"
  | maxFileSize => "io"

/-- The name of a setting in its table. -/
def key : Setting → String
  | caseSensitive => "case_sensitive"
  | searchKeys => "search_in_keys"
  | searchValues => "search_in_values"
  | searchPaths => "search_in_paths"
  | fuzzyThreshold => "fuzzy_threshold"
  | resultLimit => "limit"
  | maxDepth => "max_depth"
  | outputLimit => "limit"
  | indent => "indent"
  | openMark => "highlight_open"
  | closeMark => "highlight_close"
  | previewLength => "preview_chars"
  | maxFileSize => "max_file_size"

/-- The variable for a setting. The marks have none. -/
def variableName : Setting → Option String
  | caseSensitive => some "JSCOPE_CASE_SENSITIVE"
  | searchKeys => some "JSCOPE_SEARCH_KEYS"
  | searchValues => some "JSCOPE_SEARCH_VALUES"
  | searchPaths => some "JSCOPE_SEARCH_PATHS"
  | fuzzyThreshold => some "JSCOPE_FUZZY_THRESHOLD"
  | resultLimit => some "JSCOPE_RESULT_LIMIT"
  | maxDepth => some "JSCOPE_MAX_DEPTH"
  | outputLimit => some "JSCOPE_OUTPUT_LIMIT"
  | indent => some "JSCOPE_INDENT"
  | openMark | closeMark => none
  | previewLength => some "JSCOPE_PREVIEW_CHARS"
  | maxFileSize => some "JSCOPE_MAX_FILE_SIZE"

/-- How a setting is converted. -/
def convert (s : Setting) (v : Toml.Value) : Except Fault s.Value :=
  match s with
  | caseSensitive | searchKeys | searchValues | searchPaths => .ok (flagOf v)
  | fuzzyThreshold => numberOf v
  | maxDepth => boundOf v
  | openMark | closeMark => .ok v.text
  | resultLimit | outputLimit | indent | previewLength | maxFileSize => integerOf v

/-- The value of a setting. -/
def of (s : Setting) (settings : Settings) : s.Value :=
  match s with
  | caseSensitive => settings.caseSensitive
  | searchKeys => settings.searchKeys
  | searchValues => settings.searchValues
  | searchPaths => settings.searchPaths
  | fuzzyThreshold => settings.fuzzyThreshold
  | resultLimit => settings.resultLimit
  | maxDepth => settings.maxDepth
  | outputLimit => settings.outputLimit
  | indent => settings.indent
  | openMark => settings.openMark
  | closeMark => settings.closeMark
  | previewLength => settings.previewLength
  | maxFileSize => settings.maxFileSize

/-- The value that overrides have for a setting. -/
def given (s : Setting) (o : Overrides) : Option s.Value :=
  match s with
  | caseSensitive => o.caseSensitive
  | searchKeys => o.searchKeys
  | searchValues => o.searchValues
  | searchPaths => o.searchPaths
  | fuzzyThreshold => o.fuzzyThreshold
  | resultLimit => o.resultLimit
  | maxDepth => o.maxDepth
  | outputLimit => o.outputLimit
  | indent => o.indent
  | openMark => o.openMark
  | closeMark => o.closeMark
  | previewLength => o.previewLength
  | maxFileSize => o.maxFileSize

theorem of_overriddenBy (s : Setting) (settings : Settings) (o : Overrides) :
    s.of (settings.overriddenBy o) = (s.given o).getD (s.of settings) := by
  cases s <;> rfl

theorem given_empty (s : Setting) : s.given {} = none := by
  cases s <;> rfl

/-- Overrides are the values that they have for each setting. -/
theorem overrides_ext {o other : Overrides} (same : ∀ s : Setting, s.given o = s.given other) :
    o = other := by
  obtain ⟨⟩ := o
  obtain ⟨⟩ := other
  simp only [Overrides.mk.injEq]
  exact ⟨same caseSensitive, same searchKeys, same searchValues, same searchPaths,
    same fuzzyThreshold, same resultLimit, same maxDepth, same outputLimit, same indent,
    same openMark, same closeMark, same previewLength, same maxFileSize⟩

theorem variableName_inj : ∀ s other : Setting, s.variableName = other.variableName →
    s.variableName = none ∨ s = other := by
  decide +kernel

/-! ## Variables -/

/-- The value that an environment has for a setting: its variable, unless that cannot be
converted. -/
def inEnvironment? (s : Setting) (environment : Environment) : Option s.Value :=
  s.variableName.bind fun name => readVariable environment name s.convert

theorem readVariable_flag (environment : Environment) (name : String) :
    readVariable environment name (fun v => .ok (flagOf v)) =
      (environment.lookup name).map flagOfText := by
  rw [readVariable]
  cases environment.lookup name <;> rfl

theorem given_overridesOfEnvironment (s : Setting) (environment : Environment) :
    s.given (overridesOfEnvironment environment) = s.inEnvironment? environment := by
  cases s with
  | caseSensitive | searchKeys | searchValues | searchPaths =>
      exact (readVariable_flag environment _).symm
  | _ => rfl

end Setting

/-! ## Configuration documents -/

/-- The document in the bytes of a configuration file, if they are valid. -/
def documentOf? (bytes : List UInt8) : Option Toml.Table :=
  match Text.decodeUtf8 bytes with
  | .error _ => none
  | .ok chars => Toml.read (String.ofList chars)

/-- The field of a setting in a configuration document. -/
def Setting.inDocument? (s : Setting) (document : Toml.Table) : Option Toml.Value :=
  match document.lookup s.group with
  | some (.table fields) => fields.lookup s.key
  | _ => none

/-- Whether a value is a table. -/
def isTable : Toml.Value → Bool
  | .table _ => true
  | _ => false

/-- The groups of settings that a document has are tables. -/
def HasTables (document : Toml.Table) : Prop :=
  ∀ s : Setting, ∀ v ∈ document.lookup s.group, isTable v = true

/-- Whether a conversion fails because a number is out of range. -/
def overflows {α : Type} : Except Fault α → Bool
  | .error .infiniteInteger | .error .integerTooLarge => true
  | .error .invalid | .ok _ => false

/-- No number among the settings of a document is out of range. -/
def IsInRange (document : Toml.Table) : Prop :=
  ∀ s : Setting, ∀ v ∈ s.inDocument? document, overflows (s.convert v) = false

/-- All settings of a document can be converted. -/
def IsUsable (document : Toml.Table) : Prop :=
  ∀ s : Setting, ∀ v ∈ s.inDocument? document, (s.convert v).isOk = true

instance : DecidablePred HasTables := fun _ => inferInstanceAs (Decidable (∀ _ : Setting, _))

instance : DecidablePred IsInRange := fun _ => inferInstanceAs (Decidable (∀ _ : Setting, _))

instance : DecidablePred IsUsable := fun _ => inferInstanceAs (Decidable (∀ _ : Setting, _))

variable {document : Toml.Table}

theorem convertIn_of_hasTables (tables : HasTables document) (s : Setting) :
    convertIn (groupIn document s.group) s.key s.convert =
      match s.inDocument? document with
      | none => .ok none
      | some v => (s.convert v).map some := by
  rw [Setting.inDocument?, groupIn]
  cases found : document.lookup s.group with
  | none => rfl
  | some group =>
      cases group with
      | table fields =>
          simp only [Option.getD_some, convertIn, settingIn?]
          cases fields.lookup s.key with
          | none => rfl
          | some v => cases s.convert v <;> rfl
      | _ => exact absurd (tables s _ found) Bool.false_ne_true

theorem convertIn_eq_error_iff (tables : HasTables document) {s : Setting} {fault : Fault} :
    convertIn (groupIn document s.group) s.key s.convert = .error fault ↔
      ∃ v, s.inDocument? document = some v ∧ s.convert v = .error fault := by
  rw [convertIn_of_hasTables tables]
  cases s.inDocument? document with
  | none => simp
  | some v => cases means : s.convert v <;> simp [means, Except.map]

/-! ## The settings of a document, one after the other -/

theorem bind_eq_ok_iff {α β : Type} {first : Except Fault α} {next : α → Except Fault β} {b : β} :
    first >>= next = .ok b ↔ ∃ a, first = .ok a ∧ next a = .ok b := by
  cases first <;> simp [bind, Except.bind]

/-- A document sets exactly what each of its settings is converted to. -/
theorem overridesOf_eq_ok_iff {o : Overrides} :
    overridesOf document = .ok o ↔ ∀ s : Setting,
      convertIn (groupIn document s.group) s.key s.convert = .ok (s.given o) := by
  simp only [overridesOf, bind_eq_ok_iff]
  constructor
  · rintro ⟨_, caseSensitive, _, searchKeys, _, searchValues, _, searchPaths, _, fuzzyThreshold,
      _, resultLimit, _, maxDepth, _, outputLimit, _, indent, _, openMark, _, closeMark,
      _, previewLength, _, maxFileSize, same⟩ s
    cases same
    cases s <;> assumption
  · intro every
    exact ⟨_, every .caseSensitive, _, every .searchKeys, _, every .searchValues,
      _, every .searchPaths, _, every .fuzzyThreshold, _, every .resultLimit, _, every .maxDepth,
      _, every .outputLimit, _, every .indent, _, every .openMark, _, every .closeMark,
      _, every .previewLength, _, every .maxFileSize, rfl⟩

/-- The fault that a computation ends with, if it does. -/
def faultOf? {α : Type} : Except Fault α → Option Fault
  | .error fault => some fault
  | .ok _ => none

/-- The fault that a document has at a setting. -/
def Setting.fault? (s : Setting) (document : Toml.Table) : Option Fault :=
  faultOf? (convertIn (groupIn document s.group) s.key s.convert)

theorem Setting.fault?_eq_some_iff {s : Setting} {fault : Fault} :
    s.fault? document = some fault ↔
      convertIn (groupIn document s.group) s.key s.convert = .error fault := by
  rw [fault?]
  cases convertIn (groupIn document s.group) s.key s.convert <;> simp [faultOf?]

/-- If a setting is converted before others, its fault comes before theirs. -/
theorem faultOf?_bind {α : Type} {s : Setting} {behind : List Setting}
    {next : Option s.Value → Except Fault α}
    (later : ∀ value, faultOf? (next value) = behind.findSome? (·.fault? document)) :
    faultOf? (convertIn (groupIn document s.group) s.key s.convert >>= next) =
      (s :: behind).findSome? (·.fault? document) := by
  rw [List.findSome?_cons, Setting.fault?]
  cases convertIn (groupIn document s.group) s.key s.convert with
  | error fault => rfl
  | ok value => exact later value

theorem faultOf?_overridesOf :
    faultOf? (overridesOf document) = Setting.all.findSome? (·.fault? document) := by
  refine faultOf?_bind (s := .caseSensitive) fun _ => ?_
  refine faultOf?_bind (s := .searchKeys) fun _ => ?_
  refine faultOf?_bind (s := .searchValues) fun _ => ?_
  refine faultOf?_bind (s := .searchPaths) fun _ => ?_
  refine faultOf?_bind (s := .fuzzyThreshold) fun _ => ?_
  refine faultOf?_bind (s := .resultLimit) fun _ => ?_
  refine faultOf?_bind (s := .maxDepth) fun _ => ?_
  refine faultOf?_bind (s := .outputLimit) fun _ => ?_
  refine faultOf?_bind (s := .indent) fun _ => ?_
  refine faultOf?_bind (s := .openMark) fun _ => ?_
  refine faultOf?_bind (s := .closeMark) fun _ => ?_
  refine faultOf?_bind (s := .previewLength) fun _ => ?_
  refine faultOf?_bind (s := .maxFileSize) fun _ => ?_
  rfl

/-- A document is refused for the first fault among its settings. -/
theorem overridesOf_eq_error_iff {fault : Fault} :
    overridesOf document = .error fault ↔
      ∃ before s after, Setting.all = before ++ s :: after ∧
        (∀ earlier ∈ before, earlier.fault? document = none) ∧ s.fault? document = some fault := by
  have first : overridesOf document = .error fault ↔
      Setting.all.findSome? (·.fault? document) = some fault := by
    rw [← faultOf?_overridesOf]
    cases overridesOf document <;> simp [faultOf?]
  rw [first, List.findSome?_eq_some_iff]
  constructor
  · rintro ⟨before, s, after, split, faulty, sound⟩
    exact ⟨before, s, after, split, sound, faulty⟩
  · rintro ⟨before, s, after, split, sound, faulty⟩
    exact ⟨before, s, after, split, faulty, sound⟩

/-- Whatever a document is refused for, one of its settings is at fault. -/
theorem exists_of_overridesOf_eq_error {fault : Fault}
    (failed : overridesOf document = .error fault) :
    ∃ s : Setting, convertIn (groupIn document s.group) s.key s.convert = .error fault := by
  obtain ⟨_, s, _, -, -, faulty⟩ := overridesOf_eq_error_iff.mp failed
  exact ⟨s, Setting.fault?_eq_some_iff.mp faulty⟩

/-! ## The configuration file -/

/-- The value that a configuration file has for a setting, provided that all its settings can be
converted. -/
def Setting.inFile? (s : Setting) (file : Option (List UInt8)) : Option s.Value :=
  match file.bind documentOf? with
  | none => none
  | some document =>
    if IsUsable document then (s.inDocument? document).bind fun v => (s.convert v).toOption
    else none

theorem overridesOfFile_eq (bytes : List UInt8) :
    overridesOfFile bytes =
      match documentOf? bytes with
      | none => .ok {}
      | some document =>
        match overridesOf document with
        | .error .invalid => .ok {}
        | overrides => overrides := by
  rw [overridesOfFile, documentOf?]
  cases Text.decodeUtf8 bytes with
  | error _ => rfl
  | ok chars => cases Toml.read (String.ofList chars) <;> rfl

/-- A document all of whose settings can be converted sets them. -/
theorem overridesOf_of_isUsable (tables : HasTables document) (usable : IsUsable document) :
    ∃ o, overridesOf document = .ok o ∧ ∀ s : Setting,
      s.given o = (s.inDocument? document).bind fun v => (s.convert v).toOption := by
  have converted (s : Setting) : convertIn (groupIn document s.group) s.key s.convert =
      .ok ((s.inDocument? document).bind fun v => (s.convert v).toOption) := by
    rw [convertIn_of_hasTables tables]
    cases found : s.inDocument? document with
    | none => rfl
    | some v =>
        have ok := usable s v found
        cases result : s.convert v with
        | error fault =>
            rw [result] at ok
            cases ok
        | ok x => simp [result, Except.map, Except.toOption]
  cases result : overridesOf document with
  | error fault =>
      obtain ⟨s, failed⟩ := exists_of_overridesOf_eq_error result
      rw [converted] at failed
      cases failed
  | ok o =>
      refine ⟨o, rfl, fun s => ?_⟩
      have same := overridesOf_eq_ok_iff.mp result s
      rw [converted] at same
      exact (Except.ok.inj same).symm

/-- A document with a setting that cannot be converted is invalid, unless a number is out of
range. -/
theorem overridesOf_of_not_isUsable (tables : HasTables document) (inRange : IsInRange document)
    (notUsable : ¬ IsUsable document) : overridesOf document = .error .invalid := by
  cases result : overridesOf document with
  | ok o =>
      refine absurd (fun s v found => ?_) notUsable
      cases means : s.convert v with
      | ok x => rfl
      | error fault =>
          have failed := (convertIn_eq_error_iff tables).mpr ⟨v, found, means⟩
          rw [overridesOf_eq_ok_iff.mp result s] at failed
          cases failed
  | error fault =>
      obtain ⟨s, failed⟩ := exists_of_overridesOf_eq_error result
      obtain ⟨v, found, means⟩ := (convertIn_eq_error_iff tables).mp failed
      have fits := inRange s v found
      rw [means] at fits
      cases fault with
      | invalid => rfl
      | infiniteInteger | integerTooLarge => cases fits

/-- What a configuration file sets, if there is one. -/
theorem exists_overrides_of_file {file : Option (List UInt8)}
    (tables : ∀ document ∈ file.bind documentOf?, HasTables document)
    (inRange : ∀ document ∈ file.bind documentOf?, IsInRange document)
    (environment : Environment) :
    ∃ o, load environment file =
        .ok ((default.overriddenBy o).overriddenBy (overridesOfEnvironment environment)) ∧
      ∀ s : Setting, s.given o = s.inFile? file := by
  cases file with
  | none => exact ⟨{}, rfl, Setting.given_empty⟩
  | some bytes =>
      simp only [load, overridesOfFile_eq]
      cases found : documentOf? bytes with
      | none => exact ⟨{}, rfl, fun s => by simp [Setting.given_empty, Setting.inFile?, found]⟩
      | some document =>
          have hasTables := tables document found
          by_cases usable : IsUsable document
          · obtain ⟨o, sets, values⟩ := overridesOf_of_isUsable hasTables usable
            simp only [sets]
            exact ⟨o, rfl, fun s => by simp [values, Setting.inFile?, found, usable]⟩
          · simp only [overridesOf_of_not_isUsable hasTables (inRange document found) usable]
            exact ⟨{}, rfl, fun s => by simp [Setting.given_empty, Setting.inFile?, found, usable]⟩

/-! ## Layers -/

/-- An environment in which a variable is not set. -/
def without (environment : Environment) (name : String) : Environment :=
  environment.filter fun entry => entry.1 != name

theorem lookup_without_self (environment : Environment) (name : String) :
    (without environment name).lookup name = none := by
  rw [List.lookup_eq_none_iff]
  intro entry inside
  rw [bne_comm]
  exact (List.mem_filter.mp inside).2

theorem lookup_without_of_ne (environment : Environment) {name other : String}
    (different : other ≠ name) :
    (without environment name).lookup other = environment.lookup other := by
  induction environment with
  | nil => rfl
  | cons entry rest ih =>
      by_cases same : entry.1 = name
      · have skipped : (other == entry.1) = false := by simp [same, different]
        rw [without, List.filter_cons_of_neg (by simp [same]), ← without, ih, List.lookup_cons,
          skipped]
      · rw [without, List.filter_cons_of_pos (by simp [same]), ← without, List.lookup_cons,
          List.lookup_cons, ih]

/-- A variable that cannot be converted is as good as a missing one. -/
theorem overridesOfEnvironment_without {environment : Environment} {s : Setting} {name : String}
    (named : s.variableName = some name) (lost : s.inEnvironment? environment = none) :
    overridesOfEnvironment (without environment name) = overridesOfEnvironment environment := by
  refine Setting.overrides_ext fun other => ?_
  rw [Setting.given_overridesOfEnvironment, Setting.given_overridesOfEnvironment]
  cases namedToo : other.variableName with
  | none => simp [Setting.inEnvironment?, namedToo]
  | some otherName =>
      by_cases same : otherName = name
      · have isSame : s = other := by
          rcases Setting.variableName_inj s other (by rw [named, namedToo, same]) with none | isSame
          · rw [named] at none
            cases none
          · exact isSame
        rw [← isSame, lost, Setting.inEnvironment?, named, Option.bind_some, readVariable,
          lookup_without_self, Option.bind_none]
      · simp only [Setting.inEnvironment?, namedToo, Option.bind_some, readVariable,
          lookup_without_of_ne environment same]

/-- Every setting is taken from the first layer that has a value for it: its variable, its field in
the file, its default. If one field of the file cannot be converted, loading goes as without a file,
and if a variable cannot be converted, as without that variable. -/
theorem load_eq_layers {environment : Environment} {file : Option (List UInt8)}
    (tables : ∀ document ∈ file.bind documentOf?, HasTables document)
    (inRange : ∀ document ∈ file.bind documentOf?, IsInRange document) :
    (∃ settings, load environment file = .ok settings ∧ ∀ s : Setting, s.of settings =
      (s.inEnvironment? environment).getD ((s.inFile? file).getD (s.of default))) ∧
    (∀ document ∈ file.bind documentOf?, ∀ s : Setting, ∀ v ∈ s.inDocument? document,
      (s.convert v).isOk = false → load environment file = load environment none) ∧
    ∀ s : Setting, ∀ name ∈ s.variableName, s.inEnvironment? environment = none →
      load environment file = load (without environment name) file := by
  obtain ⟨o, loaded, values⟩ := exists_overrides_of_file tables inRange environment
  refine ⟨⟨_, loaded, fun s => ?_⟩, ?_, ?_⟩
  · rw [Setting.of_overriddenBy, Setting.of_overriddenBy, values,
      Setting.given_overridesOfEnvironment]
  · intro document read s v found fails
    have notUsable : ¬ IsUsable document := fun usable => by
      rw [usable s v found] at fails
      cases fails
    have read : file.bind documentOf? = some document := read
    have empty : o = {} := Setting.overrides_ext fun s => by
      simp [values, Setting.inFile?, read, notUsable, Setting.given_empty]
    rw [loaded, empty]
    rfl
  · intro s name named lost
    simp only [load, overridesOfEnvironment_without named lost]

/-- A file with a limit and an indent. -/
def plainFile : List UInt8 :=
  "[search]\nlimit = 50\n\n[output]\nindent = 3\n".toUTF8.toList

/-- The same file with a length behind them that is no number. -/
def spoiltFile : List UInt8 :=
  "[search]\nlimit = 50\n\n[output]\nindent = 3\npreview_chars = \"x\"\n".toUTF8.toList

/-- An environment with another indent and a threshold that is no number. -/
def mixedEnvironment : Environment := [("JSCOPE_INDENT", "4"), ("JSCOPE_FUZZY_THRESHOLD", "?")]

/-- The indent comes from the environment, the limit from the file, the threshold from the
defaults; and nothing comes from the file that is spoilt. -/
theorem load_layers_of_mixed_sources :
    (∃ settings, load mixedEnvironment (some plainFile) = .ok settings ∧ settings.indent = 4 ∧
      settings.resultLimit = 50 ∧ settings.fuzzyThreshold = default.fuzzyThreshold) ∧
    load mixedEnvironment (some spoiltFile) = load mixedEnvironment none := by
  have plain : ∀ document ∈ (some plainFile).bind documentOf?,
      HasTables document ∧ IsInRange document := by
    decide +kernel
  have spoilt : ∀ document ∈ (some spoiltFile).bind documentOf?,
      HasTables document ∧ IsInRange document := by
    decide +kernel
  constructor
  · obtain ⟨settings, loaded, values⟩ := (@load_eq_layers mixedEnvironment (some plainFile)
      (fun document read => (plain document read).1) fun document read => (plain document read).2).1
    have read : Setting.indent.inEnvironment? mixedEnvironment = some (4 : Int) ∧
        Setting.resultLimit.inEnvironment? mixedEnvironment = (none : Option Int) ∧
        Setting.fuzzyThreshold.inEnvironment? mixedEnvironment = (none : Option Binary64) := by
      decide +kernel
    have fields : Setting.resultLimit.inFile? (some plainFile) = some (50 : Int) ∧
        Setting.fuzzyThreshold.inFile? (some plainFile) = (none : Option Binary64) := by
      decide +kernel
    refine ⟨settings, loaded, (values .indent).trans ?_, (values .resultLimit).trans ?_,
      (values .fuzzyThreshold).trans ?_⟩
    · rw [read.1]
      rfl
    · rw [read.2.1, fields.1]
      rfl
    · rw [read.2.2, fields.2]
      rfl
  · have fails : ∃ document ∈ (some spoiltFile).bind documentOf?,
        ∃ v ∈ Setting.previewLength.inDocument? document,
          (Setting.previewLength.convert v).isOk = false := by
      decide +kernel
    obtain ⟨document, read, v, found, fails⟩ := fails
    exact (@load_eq_layers mixedEnvironment (some spoiltFile)
      (fun document read => (spoilt document read).1)
      fun document read => (spoilt document read).2).2.1 document read .previewLength v found fails

end Settings

end JsonSeek
