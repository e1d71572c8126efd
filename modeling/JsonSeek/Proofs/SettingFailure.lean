import JsonSeek.Proofs.Binary64Range
import JsonSeek.Proofs.SettingLayers

/-!
# When settings cannot be loaded

A configuration file that cannot be used is meant to leave the defaults. That is so whatever is
wrong with the file, but for numbers out of range: infinity for an integer setting, or an integer
without a nearest double for the threshold. If the first fault of a file is of this kind, nothing is
loaded at all (`load_error_iff`). Variables never keep the settings from being loaded.
-/

namespace JsonSeek

namespace Settings

namespace Setting

/-- Whether the values of a setting are integers. -/
def isInteger : Setting → Bool
  | resultLimit | maxDepth | outputLimit | indent | previewLength | maxFileSize => true
  | caseSensitive | searchKeys | searchValues | searchPaths | fuzzyThreshold | openMark
  | closeMark => false

/-- A number is out of range for a setting, with the fault that this is. -/
inductive IsOutOfRange : Setting → Toml.Value → Fault → Prop
  | infinite {s : Setting} (integer : s.isInteger = true) (negative : Bool) :
      IsOutOfRange s (.float (.infinite negative)) .infiniteInteger
  | large {n : Int} (beyond : Binary64.overflowBound ≤ n.natAbs) :
      IsOutOfRange .fuzzyThreshold (.int n) .integerTooLarge

end Setting

variable {document : Toml.Table} {fault : Fault}

/-! ## Conversions that go out of range -/

/-- Only infinity is out of the range of integers. -/
theorem integerOf_eq_error_iff {v : Toml.Value} (outOfRange : fault ≠ .invalid) :
    integerOf v = .error fault ↔
      fault = .infiniteInteger ∧ ∃ negative, v = .float (.infinite negative) := by
  cases v with
  | float x =>
      cases x with
      | nan => simp [integerOf, Binary64.truncate?, outOfRange.symm]
      | infinite negative => simp [integerOf, Binary64.truncate?, eq_comm]
      | finite negative mantissa exponent => simp [integerOf, Binary64.truncate?]
  | str s => cases read : Text.readInt? s.toList <;> simp [integerOf, read, outOfRange.symm]
  | _ => simp [integerOf, outOfRange.symm]

/-- A bound is out of range exactly if it is so as an integer. -/
theorem boundOf_eq_error_iff {v : Toml.Value} (outOfRange : fault ≠ .invalid) :
    boundOf v = .error fault ↔ integerOf v = .error fault := by
  have mapped : (integerOf v).map some = .error fault ↔ integerOf v = .error fault := by
    cases integerOf v <;> simp [Except.map]
  cases v with
  | str s =>
      have noText : integerOf (.str s) ≠ .error fault := fun failed => by
        obtain ⟨-, negative, same⟩ := (integerOf_eq_error_iff outOfRange).mp failed
        cases same
      rw [boundOf]
      split
      · exact iff_of_false (fun failed => nomatch failed) noText
      · exact mapped
  | _ => exact mapped

/-- Only an integer without a nearest double is out of the range of doubles. -/
theorem numberOf_eq_error_iff {v : Toml.Value} (outOfRange : fault ≠ .invalid) :
    numberOf v = .error fault ↔
      fault = .integerTooLarge ∧ ∃ n, v = .int n ∧ Binary64.overflowBound ≤ n.natAbs := by
  cases v with
  | int n =>
      have range := Binary64.ofInt?_eq_none_iff n
      cases rounded : Binary64.ofInt? n with
      | none => simp [numberOf, rounded, range.mp rounded, eq_comm]
      | some x =>
          have small : ¬ Binary64.overflowBound ≤ n.natAbs := fun huge => by
            rw [range.mpr huge] at rounded
            cases rounded
          simp [numberOf, rounded, small]
  | str s => cases read : Text.readBinary64? s.toList <;> simp [numberOf, read, outOfRange.symm]
  | _ => simp [numberOf, outOfRange.symm]

/-- A conversion that does not just find a value invalid has met a number out of range. -/
theorem convert_eq_error_iff {s : Setting} {v : Toml.Value} (outOfRange : fault ≠ .invalid) :
    s.convert v = .error fault ↔ s.IsOutOfRange v fault := by
  have integer (isInteger : s.isInteger = true) (failed : integerOf v = .error fault) :
      s.IsOutOfRange v fault := by
    obtain ⟨rfl, negative, rfl⟩ := (integerOf_eq_error_iff outOfRange).mp failed
    exact .infinite isInteger negative
  constructor
  · intro failed
    cases s with
    | caseSensitive | searchKeys | searchValues | searchPaths | openMark | closeMark =>
        cases failed
    | fuzzyThreshold =>
        obtain ⟨rfl, n, rfl, beyond⟩ := (numberOf_eq_error_iff outOfRange).mp failed
        exact .large beyond
    | maxDepth => exact integer rfl ((boundOf_eq_error_iff outOfRange).mp failed)
    | resultLimit | outputLimit | indent | previewLength | maxFileSize =>
        exact integer rfl failed
  · intro beyondRange
    cases beyondRange with
    | large beyond => exact (numberOf_eq_error_iff outOfRange).mpr ⟨rfl, _, rfl, beyond⟩
    | infinite isInteger negative =>
        have failed : integerOf (.float (.infinite negative)) = .error .infiniteInteger := rfl
        cases s with
        | caseSensitive | searchKeys | searchValues | searchPaths | fuzzyThreshold | openMark
        | closeMark => cases isInteger
        | maxDepth => exact (boundOf_eq_error_iff outOfRange).mpr failed
        | resultLimit | outputLimit | indent | previewLength | maxFileSize => exact failed

/-! ## Documents with a fault -/

/-- A group that is no table holds no field and is invalid at most. -/
theorem settingIn?_cases (group : Toml.Value) (key : String) :
    (∃ fields, group = .table fields ∧ settingIn? group key = .ok (fields.lookup key)) ∨
      (∀ fields, group ≠ .table fields) ∧
        (settingIn? group key = .ok none ∨ settingIn? group key = .error .invalid) := by
  cases group with
  | table fields => exact Or.inl ⟨fields, rfl, rfl⟩
  | arr _ | str _ =>
      refine Or.inr ⟨by simp, ?_⟩
      rw [settingIn?]
      split
      · exact Or.inr rfl
      · exact Or.inl rfl
  | _ => exact Or.inr ⟨by simp, Or.inr rfl⟩

/-- Converting a field meets a number out of range only in a table. -/
theorem convertIn_eq_error_iff_table {α : Type} {group : Toml.Value} {key : String}
    {convert : Toml.Value → Except Fault α} (outOfRange : fault ≠ .invalid) :
    convertIn group key convert = .error fault ↔
      ∃ fields, group = .table fields ∧ ∃ v, fields.lookup key = some v ∧
        convert v = .error fault := by
  rcases settingIn?_cases group key with ⟨fields, rfl, found⟩ | ⟨noTable, empty | invalid⟩
  · rw [convertIn, found]
    cases present : fields.lookup key with
    | none => simp [bind, Except.bind, pure, Except.pure, present]
    | some v =>
        cases converted : convert v <;>
          simp [bind, Except.bind, pure, Except.pure, present, converted]
  · rw [convertIn, empty]
    simp [bind, Except.bind, pure, Except.pure, noTable]
  · rw [convertIn, invalid]
    simp [bind, Except.bind, noTable, outOfRange.symm]

/-- A setting has a fault other than being invalid exactly if its field is out of range. -/
theorem fault?_eq_some_iff_isOutOfRange {s : Setting} (outOfRange : fault ≠ .invalid) :
    s.fault? document = some fault ↔ ∃ v ∈ s.inDocument? document, s.IsOutOfRange v fault := by
  simp only [Setting.fault?_eq_some_iff, ← convert_eq_error_iff outOfRange,
    convertIn_eq_error_iff_table outOfRange, groupIn, Setting.inDocument?]
  cases document.lookup s.group with
  | none => simp
  | some group => cases group <;> simp

/-! ## Loading -/

/-- The settings without a configuration file. -/
theorem load_none (environment : Environment) :
    load environment none = .ok (default.overriddenBy (overridesOfEnvironment environment)) :=
  rfl

theorem load_of_document {environment : Environment} {file : Option (List UInt8)}
    (read : file.bind documentOf? = some document) :
    load environment file =
      match overridesOf document with
      | .error .invalid => load environment none
      | .error fault => .error fault
      | .ok overrides => .ok ((default.overriddenBy overrides).overriddenBy
          (overridesOfEnvironment environment)) := by
  cases file with
  | none => cases read
  | some bytes =>
      have read : documentOf? bytes = some document := read
      simp only [load, overridesOfFile_eq, read]
      cases overridesOf document with
      | ok overrides => rfl
      | error fault => cases fault <;> rfl

theorem load_of_no_document {environment : Environment} {file : Option (List UInt8)}
    (unread : file.bind documentOf? = none) :
    load environment file = load environment none := by
  cases file with
  | none => rfl
  | some bytes =>
      have unread : documentOf? bytes = none := unread
      simp only [load, overridesOfFile_eq, unread]

theorem load_eq_error_iff {environment : Environment} {file : Option (List UInt8)} :
    load environment file = .error fault ↔
      fault ≠ .invalid ∧
        ∃ document ∈ file.bind documentOf?, overridesOf document = .error fault := by
  cases read : file.bind documentOf? with
  | none =>
      rw [load_of_no_document read]
      exact iff_of_false nofun (by simp)
  | some document =>
      rw [load_of_document read]
      cases result : overridesOf document with
      | ok overrides => exact iff_of_false nofun (by simp [result])
      | error other =>
          cases other with
          | invalid =>
              refine iff_of_false nofun ?_
              rintro ⟨outOfRange, _, ⟨⟩, failed⟩
              exact outOfRange (Except.error.inj (failed.symm.trans result))
          | infiniteInteger | integerTooLarge =>
              constructor
              · rintro ⟨⟩
                exact ⟨nofun, document, rfl, result⟩
              · rintro ⟨-, _, ⟨⟩, failed⟩
                obtain rfl := Except.error.inj (result.symm.trans failed)
                rfl

/-- A file with a fault leaves the defaults if it leaves any settings. -/
theorem load_of_fault {environment : Environment} {file : Option (List UInt8)}
    (loaded : ∃ settings, load environment file = .ok settings)
    (faulty : ∀ document ∈ file.bind documentOf?, ∃ s : Setting, s.fault? document ≠ none) :
    load environment file = load environment none := by
  cases read : file.bind documentOf? with
  | none => exact load_of_no_document read
  | some document =>
      obtain ⟨s, atFault⟩ := faulty document read
      rw [load_of_document read] at loaded ⊢
      cases result : overridesOf document with
      | ok overrides =>
          have converted := overridesOf_eq_ok_iff.mp result s
          rw [Setting.fault?, converted] at atFault
          exact absurd rfl atFault
      | error other =>
          cases other with
          | invalid => rfl
          | infiniteInteger | integerTooLarge =>
              obtain ⟨settings, ok⟩ := loaded
              rw [result] at ok
              cases ok

theorem Setting.IsOutOfRange.ne_invalid {s : Setting} {v : Toml.Value}
    (outOfRange : s.IsOutOfRange v fault) : fault ≠ .invalid := by
  cases outOfRange <;> exact nofun

/-- Loading settings fails exactly if the first fault of the configuration file is a number out of
range. Any other file that cannot be used, be it as a whole or for one setting, leaves the
defaults. -/
theorem load_error_iff (environment : Environment) (file : Option (List UInt8)) :
    (∀ fault, load environment file = .error fault ↔
      ∃ document ∈ file.bind documentOf?, ∃ before s after, Setting.all = before ++ s :: after ∧
        (∀ earlier ∈ before, earlier.fault? document = none) ∧
        ∃ v ∈ s.inDocument? document, s.IsOutOfRange v fault) ∧
    ((∃ settings, load environment file = .ok settings) →
      (∀ document ∈ file.bind documentOf?, ∃ s : Setting, s.fault? document ≠ none) →
      load environment file =
        .ok (default.overriddenBy (overridesOfEnvironment environment))) := by
  refine ⟨fun fault => ?_, fun loaded faulty =>
    (load_of_fault loaded faulty).trans (load_none environment)⟩
  rw [load_eq_error_iff]
  constructor
  · rintro ⟨outOfRange, document, read, failed⟩
    obtain ⟨before, s, after, split, sound, faulty⟩ := overridesOf_eq_error_iff.mp failed
    exact ⟨document, read, before, s, after, split, sound,
      (fault?_eq_some_iff_isOutOfRange outOfRange).mp faulty⟩
  · rintro ⟨document, read, before, s, after, split, sound, v, found, outOfRange⟩
    have notInvalid := outOfRange.ne_invalid
    exact ⟨notInvalid, document, read, overridesOf_eq_error_iff.mpr ⟨before, s, after, split, sound,
      (fault?_eq_some_iff_isOutOfRange notInvalid).mpr ⟨v, found, outOfRange⟩⟩⟩

/-- A file that asks for no limit to the results. -/
def unlimitedFile : List UInt8 := "[search]\nlimit = inf\n".toUTF8.toList

/-- Infinity for an integer setting keeps all settings from being loaded. -/
theorem load_fails_on_infinite_limit :
    ¬ ∃ settings, load [] (some unlimitedFile) = .ok settings := by
  have failed : (load [] (some unlimitedFile)).isOk = false := by decide +kernel
  rintro ⟨settings, loaded⟩
  rw [loaded] at failed
  cases failed

end Settings

end JsonSeek
