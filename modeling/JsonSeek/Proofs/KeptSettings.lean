import JsonSeek.Proofs.SettingLayers
import JsonSeek.Search.Session

/-!
# Settings that a session keeps

The first step that needs settings loads them, and until they are forgotten every step that needs
settings uses these, whatever happens to the surroundings (`session_uses_first_loaded`). Loading on
purpose reads the surroundings as they are and keeps nothing.
-/

namespace JsonSeek.Search

open Settings (Session Setting Surroundings)

/-! ## Completing requests -/

/-- What a request can leave to the settings. -/
inductive Tunable
  | caseSensitive
  | inKeys
  | inValues
  | inPaths
  | maxDepth
  | threshold
  | limit

namespace Tunable

/-- The setting that stands in for what is left open. -/
def setting : Tunable → Setting
  | caseSensitive => .caseSensitive
  | inKeys => .searchKeys
  | inValues => .searchValues
  | inPaths => .searchPaths
  | maxDepth => .maxDepth
  | threshold => .fuzzyThreshold
  | limit => .resultLimit

/-- What a request says itself. -/
def said? (t : Tunable) (r : Request) : Option t.setting.Value :=
  match t with
  | caseSensitive => r.caseSensitive
  | inKeys => r.inKeys
  | inValues => r.inValues
  | inPaths => r.inPaths
  | maxDepth => r.maxDepth.map some
  | threshold => r.threshold
  | limit => r.limit

/-- What search options say. -/
def of (t : Tunable) (o : Options) : t.setting.Value :=
  match t with
  | caseSensitive => o.caseSensitive
  | inKeys => o.inKeys
  | inValues => o.inValues
  | inPaths => o.inPaths
  | maxDepth => o.maxDepth
  | threshold => o.threshold
  | limit => o.limit

theorem of_fill (t : Tunable) (settings : Settings) (r : Request) :
    t.of (r.fill settings) = (t.said? r).getD (t.setting.of settings) := by
  cases t with
  | maxDepth =>
      simp only [of, said?, Request.fill]
      cases r.maxDepth <;> rfl
  | _ => rfl

end Tunable

/-- Options complete a request in a mode: they keep what it says and take the rest from the
settings. -/
structure Options.Completes (o : Options) (mode : String) (r : Request) (settings : Settings) :
    Prop where
  mode : o.mode.name = mode
  query : o.query = r.query
  kinds : o.kinds = r.kinds
  withAncestors : o.withAncestors = r.withAncestors
  said : ∀ (t : Tunable) (x : t.setting.Value), t.said? r = some x → t.of o = x
  unsaid : ∀ t : Tunable, t.said? r = none → t.of o = t.setting.of settings

theorem name_of_ofName? {name : String} {mode : Mode} (known : Mode.ofName? name = some mode) :
    mode.name = name :=
  beq_iff_eq.mp (List.find?_some (p := fun mode : Mode => mode.name == name) known)

theorem completes_fill {name : String} {mode : Mode} (known : Mode.ofName? name = some mode)
    (r : Request) (settings : Settings) :
    ({ r with mode }.fill settings).Completes name r settings where
  mode := name_of_ofName? known
  query := rfl
  kinds := rfl
  withAncestors := rfl
  said t x stated := by
    have same : t.said? { r with mode } = some x := by cases t <;> exact stated
    rw [Tunable.of_fill, same, Option.getD_some]
  unsaid t left := by
    have same : t.said? { r with mode } = none := by cases t <;> exact left
    rw [Tunable.of_fill, same, Option.getD_none]

/-! ## Single steps -/

/-- Whether a step needs the settings of its session. -/
def Step.isUse : Step → Bool
  | get => true
  | complete mode _ | search mode _ _ => (Mode.ofName? mode).isSome
  | setVariable .. | setFile .. | load | reset => false

/-- The surroundings after a step. -/
def Step.change (s : Surroundings) : Step → Surroundings
  | setVariable name value => s.setVariable name value
  | setFile path content => s.setFile path content
  | load | get | reset | complete .. | search .. => s

/-- What a step that needs settings answers from the given ones. -/
inductive Step.AnswersFrom (settings : Settings) : Step → Except StepFault Answer → Prop
  | get : AnswersFrom settings .get (.ok (.settings settings))
  | complete {mode : String} {r : Request} {o : Options} (completes : o.Completes mode r settings) :
      AnswersFrom settings (.complete mode r) (.ok (.options o))
  | search {mode : String} {r : Request} {document : Value} {o : Options}
      (completes : o.Completes mode r settings) :
      AnswersFrom settings (.search mode r document)
        (((Search.search o document).mapError .search).map .response)

/-- Whether settings could not be loaded for a step. -/
def failsToLoad : Except StepFault Answer → Bool
  | .error (.settings _) => true
  | .error (.unknownMode _) | .error (.search _) | .ok _ => false

variable {s : Session} {step : Step}

theorem get_of_loaded {settings : Settings} (kept : s.loaded = some settings) :
    s.get = (.ok settings, s) := by
  rw [Session.get, kept]

theorem get_of_load {settings : Settings} (empty : s.loaded = none)
    (loads : s.surroundings.load = .ok settings) :
    s.get = (.ok settings, { s with loaded := some settings }) := by
  rw [Session.get, empty]
  simp only [loads]

theorem get_of_fault {fault : Settings.Fault} (empty : s.loaded = none)
    (fails : s.surroundings.load = .error fault) : s.get = (.error fault, s) := by
  rw [Session.get, empty]
  simp only [fails]

theorem surroundings_get : s.get.2.surroundings = s.surroundings := by
  unfold Session.get
  split
  · rfl
  · split <;> rfl

/-- A step that needs settings answers from those that the session has, and changes the session
only by having them. -/
theorem run_of_isUse {after : Session} {settings : Settings} (use : step.isUse = true)
    (got : s.get = (.ok settings, after)) :
    (step.run s).2 = after ∧ step.AnswersFrom settings (step.run s).1 := by
  cases step with
  | setVariable | setFile | load | reset => cases use
  | get =>
      simp only [Step.run, got]
      exact ⟨trivial, .get⟩
  | complete name r =>
      obtain ⟨mode, known⟩ := Option.isSome_iff_exists.mp use
      simp only [Step.run, completeIn, known, got]
      exact ⟨trivial, .complete (completes_fill known r settings)⟩
  | search name r document =>
      obtain ⟨mode, known⟩ := Option.isSome_iff_exists.mp use
      simp only [Step.run, completeIn, known, got]
      exact ⟨trivial, .search (completes_fill known r settings)⟩

theorem failsToLoad_run_of_isUse {after : Session} {fault : Settings.Fault}
    (use : step.isUse = true) (got : s.get = (.error fault, after)) :
    failsToLoad (step.run s).1 = true := by
  cases step with
  | setVariable | setFile | load | reset => cases use
  | get =>
      simp only [Step.run, got]
      rfl
  | complete name r | search name r document =>
      obtain ⟨mode, known⟩ := Option.isSome_iff_exists.mp use
      simp only [Step.run, completeIn, known, got]
      rfl

/-- A step that does not need settings leaves them alone, unless it makes the session forget
them. -/
theorem loaded_run (noUse : step.isUse = false) (noReset : step ≠ .reset) :
    (step.run s).2.loaded = s.loaded := by
  cases step with
  | setVariable | setFile | load => rfl
  | reset => exact absurd rfl noReset
  | get => cases noUse
  | complete name r | search name r document =>
      have unknown := Option.isSome_eq_false_iff.mp noUse
      simp only [Step.run, completeIn, Option.isNone_iff_eq_none.mp unknown]

theorem surroundings_run : (step.run s).2.surroundings = step.change s.surroundings := by
  cases step with
  | setVariable | setFile | load | reset => rfl
  | get => exact surroundings_get
  | complete name r | search name r document =>
      simp only [Step.run, completeIn]
      split
      · rfl
      · exact surroundings_get

/-! ## First uses -/

/-- The surroundings after some steps. -/
def surroundingsAfter (start : Surroundings) (steps : List Step) : Surroundings :=
  steps.foldl Step.change start

theorem surroundingsAfter_concat (start : Surroundings) (steps : List Step) (step : Step) :
    surroundingsAfter start (steps ++ [step]) = step.change (surroundingsAfter start steps) :=
  List.foldl_append ..

/-- In the given steps every use of settings is followed by a reset. -/
def IsForgotten (steps : List Step) : Prop :=
  ∀ old use behind, steps = old ++ use :: behind → use.isUse = true → .reset ∈ behind

/-- A step stands between earlier and later ones as the first use of settings since they were last
forgotten. -/
structure IsFirstUse (before : List Step) (first : Step) (later : List Step) : Prop where
  isUse : first.isUse = true
  isForgotten : IsForgotten before
  isKept : .reset ∉ later

theorem ne_reset_of_isUse (use : step.isUse = true) : step ≠ .reset := by
  rintro rfl
  cases use

theorem isForgotten_of_unused {steps : List Step} (unused : ∀ step ∈ steps, step.isUse = false) :
    IsForgotten steps := by
  rintro old use behind rfl isUse
  rw [unused use (List.mem_append_right _ List.mem_cons_self)] at isUse
  cases isUse

/-- A member of a list with one more at its end is that last one, or is in the list. -/
theorem cases_of_concat_eq {α : Type} {l old behind : List α} {a b : α}
    (split : l ++ [a] = old ++ b :: behind) :
    (l = old ∧ a = b ∧ behind = []) ∨ ∃ rest, l = old ++ b :: rest ∧ behind = rest ++ [a] := by
  rcases List.append_eq_append_iff.mp split with ⟨more, rfl, same⟩ | ⟨more, rfl, same⟩
  · cases more with
    | nil => simpa using same
    | cons c more => simp at same
  · cases more with
    | nil =>
        obtain ⟨rfl, rfl⟩ := List.cons.inj same
        simp
    | cons c more =>
        obtain ⟨rfl, rfl⟩ := List.cons.inj same
        exact Or.inr ⟨more, rfl, rfl⟩

theorem isForgotten_concat_reset (steps : List Step) : IsForgotten (steps ++ [.reset]) := by
  intro old use behind split isUse
  rcases cases_of_concat_eq split with ⟨-, rfl, -⟩ | ⟨rest, -, rfl⟩
  · cases isUse
  · simp

theorem IsForgotten.concat {steps : List Step} (forgotten : IsForgotten steps)
    (noUse : step.isUse = false) : IsForgotten (steps ++ [step]) := by
  intro old use behind split isUse
  rcases cases_of_concat_eq split with ⟨-, rfl, -⟩ | ⟨rest, rfl, rfl⟩
  · rw [noUse] at isUse
    cases isUse
  · exact List.mem_append_left _ (forgotten old use rest rfl isUse)

/-- There is one first use at most. -/
theorem IsFirstUse.unique {before before' later later' : List Step} {first first' : Step}
    (is : IsFirstUse before first later) (isToo : IsFirstUse before' first' later')
    (same : before ++ first :: later = before' ++ first' :: later') : before = before' := by
  rcases List.append_eq_append_iff.mp same with ⟨more, rfl, split⟩ | ⟨more, rfl, split⟩
  · cases more with
    | nil => simp
    | cons use behind =>
        obtain ⟨rfl, rfl⟩ := List.cons.inj split
        have inside := isToo.isForgotten before first behind rfl is.isUse
        exact absurd (List.mem_append_left _ inside) is.isKept
  · cases more with
    | nil => simp
    | cons use behind =>
        obtain ⟨rfl, rfl⟩ := List.cons.inj split
        have inside := is.isForgotten before' first' behind rfl isToo.isUse
        exact absurd (List.mem_append_left _ inside) isToo.isKept

/-! ## Whole sessions -/

/-- What a session holds after some steps: the surroundings that they led to, and the settings that
were loaded at the first use since they were last forgotten, or none if there was no such use. -/
structure Tracks (start : Surroundings) (steps : List Step) (s : Session) : Prop where
  surroundings : s.surroundings = surroundingsAfter start steps
  empty : s.loaded = none → IsForgotten steps
  kept : ∀ settings, s.loaded = some settings → ∃ before first later,
    steps = before ++ first :: later ∧ IsFirstUse before first later ∧
      (surroundingsAfter start before).load = .ok settings

variable {start : Surroundings} {steps : List Step}

theorem tracks_start (start : Surroundings) : Tracks start [] ⟨start, none⟩ where
  surroundings := rfl
  empty _ := isForgotten_of_unused (by simp)
  kept _ found := nomatch found

/-- The settings that a step uses are those loaded at the first use. -/
theorem Tracks.exists_get (tracks : Tracks start steps s) (use : step.isUse = true)
    (loads : failsToLoad (step.run s).1 = false) :
    ∃ settings after, s.get = (.ok settings, after) ∧ after.loaded = some settings ∧
      ∃ before first later, steps ++ [step] = before ++ first :: later ∧
        IsFirstUse before first later ∧ (surroundingsAfter start before).load = .ok settings := by
  cases found : s.loaded with
  | some settings =>
      obtain ⟨before, first, later, rfl, is, loaded⟩ := tracks.kept settings found
      refine ⟨settings, s, get_of_loaded found, found, before, first, later ++ [step], by simp, ?_,
        loaded⟩
      exact ⟨is.isUse, is.isForgotten, by simp [is.isKept, (ne_reset_of_isUse use).symm]⟩
  | none =>
      cases loaded : s.surroundings.load with
      | error fault =>
          rw [failsToLoad_run_of_isUse use (get_of_fault found loaded)] at loads
          cases loads
      | ok settings =>
          refine ⟨settings, _, get_of_load found loaded, rfl, steps, step, [], rfl, ?_, ?_⟩
          · exact ⟨use, tracks.empty found, by simp⟩
          · rw [← tracks.surroundings, loaded]

/-- One step. -/
theorem Tracks.run (tracks : Tracks start steps s) (loads : failsToLoad (step.run s).1 = false) :
    Tracks start (steps ++ [step]) (step.run s).2 := by
  have surroundings : (step.run s).2.surroundings = surroundingsAfter start (steps ++ [step]) := by
    rw [surroundings_run, tracks.surroundings, surroundingsAfter_concat]
  by_cases use : step.isUse = true
  · obtain ⟨settings, after, got, has, before, first, later, split, is, loaded⟩ :=
      tracks.exists_get use loads
    have ran := (run_of_isUse use got).1
    rw [ran] at surroundings ⊢
    refine ⟨surroundings, fun empty => ?_, fun other found => ?_⟩
    · rw [has] at empty
      cases empty
    · obtain rfl := Option.some.inj (has.symm.trans found)
      exact ⟨before, first, later, split, is, loaded⟩
  · have noUse : step.isUse = false := Bool.eq_false_iff.mpr use
    by_cases reset : step = .reset
    · subst reset
      exact ⟨surroundings, fun _ => isForgotten_concat_reset steps, fun _ found => nomatch found⟩
    · have same := @loaded_run s step noUse reset
      refine ⟨surroundings, fun empty => ?_, fun settings found => ?_⟩
      · exact (tracks.empty (same.symm.trans empty)).concat noUse
      · obtain ⟨before, first, later, rfl, is, loaded⟩ :=
          tracks.kept settings (same.symm.trans found)
        refine ⟨before, first, later ++ [step], by simp, ⟨is.isUse, is.isForgotten, ?_⟩, loaded⟩
        simp [is.isKept, Ne.symm reset]

/-- A run of steps. -/
theorem Tracks.run_all {more : List Step} (tracks : Tracks start steps s)
    (loads : ∀ answer ∈ answers s more, failsToLoad answer = false) :
    Tracks start (steps ++ more) (sessionAfter s more) := by
  induction more generalizing steps s with
  | nil =>
      rw [List.append_nil]
      exact tracks
  | cons step rest ih =>
      rw [List.append_cons]
      exact ih (tracks.run (loads _ List.mem_cons_self)) fun answer inside =>
        loads answer (List.mem_cons_of_mem _ inside)

theorem answers_append (s : Session) (done more : List Step) :
    answers s (done ++ more) = answers s done ++ answers (sessionAfter s done) more := by
  induction done generalizing s with
  | nil => rfl
  | cons step rest ih =>
      rw [List.cons_append, answers, ih]
      rfl

/-- In a session in which loading never fails, a step that needs settings answers from those that
were loaded at the first use since they were last forgotten. Loading on purpose answers what the
surroundings give at that moment and leaves the session as it is. -/
theorem session_uses_first_loaded {start : Surroundings} {done : List Step} {step : Step}
    (loads : ∀ answer ∈ answers ⟨start, none⟩ (done ++ [step]), failsToLoad answer = false) :
    (step.isUse = true →
      (∃ before first later, IsFirstUse before first later ∧
        done ++ [step] = before ++ first :: later) ∧
      ∀ before first later, IsFirstUse before first later →
        done ++ [step] = before ++ first :: later →
        ∃ settings, (surroundingsAfter start before).load = .ok settings ∧
          step.AnswersFrom settings (step.run (sessionAfter ⟨start, none⟩ done)).1) ∧
    (step = .load →
      ∃ settings, (surroundingsAfter start done).load = .ok settings ∧
        step.run (sessionAfter ⟨start, none⟩ done) =
          (.ok (.settings settings), sessionAfter ⟨start, none⟩ done)) := by
  rw [answers_append] at loads
  have tracks : Tracks start done (sessionAfter ⟨start, none⟩ done) :=
    (tracks_start start).run_all fun answer inside => loads answer (List.mem_append_left _ inside)
  have now := loads _ (List.mem_append_right _ List.mem_cons_self)
  constructor
  · intro use
    obtain ⟨settings, after, got, -, before, first, later, split, is, loaded⟩ :=
      tracks.exists_get use now
    refine ⟨⟨before, first, later, is, split⟩, ?_⟩
    intro before' first' later' isToo splitToo
    obtain rfl := is.unique isToo (split.symm.trans splitToo)
    exact ⟨settings, loaded, (run_of_isUse use got).2⟩
  · rintro rfl
    rw [Step.run, tracks.surroundings] at now ⊢
    cases loaded : (surroundingsAfter start done).load with
    | ok settings => exact ⟨settings, rfl, rfl⟩
    | error fault =>
        rw [loaded] at now
        cases now

/-- Surroundings with a home folder and nothing else. -/
def bareHome : Surroundings := ⟨[], "/home", []⟩

/-- A limit is set, but not used by a request in a mode that does not exist. -/
def limitSet : List Step :=
  [.setVariable "JSCOPE_RESULT_LIMIT" (some "5"), .complete "telepathy" { query := "a" }]

/-- The limit is changed after its first use and loaded on purpose. -/
def limitChanged : List Step :=
  limitSet ++ [.get, .setVariable "JSCOPE_RESULT_LIMIT" (some "7"), .load]

/-- A request that leaves the limit open but not the threshold. -/
def openLimit : Request := { query := "b", threshold := some .zero }

/-- The limit that was set at the first use counts, and the threshold that was asked for. -/
theorem session_uses_first_limit :
    (∀ answer ∈ answers ⟨bareHome, none⟩ (limitChanged ++ [.complete "fuzzy" openLimit]),
      failsToLoad answer = false) ∧
    ∃ o, ((Step.complete "fuzzy" openLimit).run (sessionAfter ⟨bareHome, none⟩ limitChanged)).1 =
        .ok (.options o) ∧ o.limit = 5 ∧ o.threshold = .zero := by
  have loads : ∀ answer ∈ answers ⟨bareHome, none⟩
      (limitChanged ++ [.complete "fuzzy" openLimit]), failsToLoad answer = false := by
    decide +kernel
  have first : IsFirstUse limitSet .get [.setVariable "JSCOPE_RESULT_LIMIT" (some "7"), .load,
      .complete "fuzzy" openLimit] :=
    ⟨rfl, isForgotten_of_unused (by decide +kernel), by simp⟩
  obtain ⟨settings, loaded, answered⟩ :=
    ((session_uses_first_loaded loads).1 (by decide +kernel)).2 _ _ _ first rfl
  have five : (surroundingsAfter bareHome limitSet).load.toOption.map (·.resultLimit) = some 5 := by
    decide +kernel
  refine ⟨loads, ?_⟩
  generalize (Step.complete "fuzzy" openLimit).run _ = ran at answered
  obtain ⟨answer, after⟩ := ran
  cases answered with
  | complete completes =>
      refine ⟨_, rfl, (completes.unsaid .limit rfl).trans ?_, completes.said .threshold _ rfl⟩
      rw [loaded] at five
      exact Option.some.inj five

end JsonSeek.Search
