import JsonSeek.Proofs.MarkedRuns

/-!
# A text as a row of runs

Spans divide a text into runs: parts that they cover as a whole or not at all, each as long as it
can be. Marking the spans copies the runs in order and puts one pair of marks around each covered
one (`wrapSpans_marks_runs`), so that no pair stands in another and none is empty.
-/

namespace JsonSeek.Match

/-- A part of a text that is covered as a whole or not at all. -/
structure Run where
  covered : Bool
  text : List Char

/-- A run with the marks that belong around it. -/
def Run.marked (opening closing : List Char) (run : Run) : List Char :=
  if run.covered then opening ++ run.text ++ closing else run.text

/-- The runs of a text whose first character has the given offset. No run is empty, and each one
differs from the next one, so that it could not be longer. -/
inductive AreRuns (covered : Int → Bool) : Int → List Run → Prop
  | nil (offset : Int) : AreRuns covered offset []
  | cons {offset : Int} {run : Run} {rest : List Run} (nonempty : run.text ≠ [])
      (uniform : ∀ i, offset ≤ i → i < offset + run.text.length → covered i = run.covered)
      (apart : ∀ next ∈ rest.head?, next.covered ≠ run.covered)
      (further : AreRuns covered (offset + run.text.length) rest) :
      AreRuns covered offset (run :: rest)

section

variable {opening closing : List Char} {covered : Int → Bool} {offset : Int} {run : Run}
  {rest runs : List Run}

/-- The first character of a run tells whether the run is covered. -/
theorem AreRuns.covered_offset (areRuns : AreRuns covered offset (run :: rest)) :
    covered offset = run.covered := by
  cases areRuns with
  | cons nonempty uniform apart further =>
      have := List.length_pos_iff.mpr nonempty
      exact uniform offset (Int.le_refl offset) (by omega)

/-- A character before the runs makes the first run longer, or is a run of its own. -/
theorem AreRuns.exists_cons (c : Char) (areRuns : AreRuns covered (offset + 1) runs) :
    ∃ longer, AreRuns covered offset longer ∧
      longer.flatMap Run.text = c :: runs.flatMap Run.text := by
  have alone (apart : ∀ next ∈ runs.head?, next.covered ≠ covered offset) :
      AreRuns covered offset (⟨covered offset, [c]⟩ :: runs) := by
    refine .cons (List.cons_ne_nil c []) (fun i start stop => ?_) apart areRuns
    have here : i = offset := by
      simp only [List.length_singleton] at stop
      omega
    rw [here]
  cases areRuns with
  | nil => exact ⟨_, alone (by simp), rfl⟩
  | @cons _ run rest nonempty uniform apart further =>
      by_cases same : run.covered = covered offset
      · refine ⟨⟨run.covered, c :: run.text⟩ :: rest,
          .cons (List.cons_ne_nil c run.text) (fun i start stop => ?_) apart ?_, rfl⟩
        · simp only [List.length_cons] at stop
          rcases Int.lt_or_eq_of_le start with behind | rfl
          · exact uniform i behind (by omega)
          · exact same.symm
        · have size : offset + 1 + (run.text.length : Int) =
              offset + ((c :: run.text).length : Nat) := by
            rw [List.length_cons]
            omega
          exact size ▸ further
      · refine ⟨_, alone ?_, rfl⟩
        rintro _ ⟨⟩
        exact same

/-- Every text is a row of runs. -/
theorem exists_areRuns (covered : Int → Bool) (offset : Int) (text : List Char) :
    ∃ runs, AreRuns covered offset runs ∧ runs.flatMap Run.text = text := by
  induction text generalizing offset with
  | nil => exact ⟨[], .nil offset, rfl⟩
  | cons c rest ih =>
      obtain ⟨runs, areRuns, spelled⟩ := ih (offset + 1)
      rw [← spelled]
      exact areRuns.exists_cons c

/-- One run is copied, with marks around it if it is covered. -/
theorem encloseFrom_eq_marked (nonempty : run.text ≠ [])
    (uniform : ∀ i, offset ≤ i → i < offset + run.text.length → covered i = run.covered)
    (begins : run.covered = true → covered (offset - 1) = false)
    (ends : run.covered = true → covered (offset + run.text.length) = false) :
    encloseFrom opening closing covered offset run.text = run.marked opening closing := by
  unfold Run.marked
  cases marked : run.covered with
  | false =>
      rw [marked] at uniform
      exact encloseFrom_of_uncovered uniform
  | true =>
      rw [marked] at uniform
      rw [encloseFrom_of_run nonempty uniform (ends marked), begins marked]
      rfl

/-- Where no covered run begins, nothing is covered, be it a bare run or the end of the text. -/
theorem AreRuns.covered_eq_false (areRuns : AreRuns covered offset runs)
    (bare : ∀ run ∈ runs.head?, run.covered = false)
    (ends : covered (offset + (runs.flatMap Run.text).length) = false) :
    covered offset = false := by
  cases runs with
  | nil => simpa using ends
  | cons run rest => exact areRuns.covered_offset.trans (bare run rfl)

/-- If no run goes on beyond either end of the text, then every covered run is enclosed once: what
stands next to it is the end of the text or a bare run. -/
theorem AreRuns.encloseFrom_eq (areRuns : AreRuns covered offset runs)
    (begins : ∀ run ∈ runs.head?, run.covered = true → covered (offset - 1) = false)
    (ends : covered (offset + (runs.flatMap Run.text).length) = false) :
    encloseFrom opening closing covered offset (runs.flatMap Run.text) =
      runs.flatMap (Run.marked opening closing) := by
  induction areRuns with
  | nil offset => rfl
  | @cons offset run rest nonempty uniform apart further ih =>
      have size : 0 < run.text.length := List.length_pos_iff.mpr nonempty
      have last : covered (offset + run.text.length - 1) = run.covered :=
        uniform _ (by omega) (by omega)
      rw [List.flatMap_cons, List.length_append, Int.natCast_add, ← Int.add_assoc] at ends
      have stops : run.covered = true → covered (offset + run.text.length) = false := by
        refine fun marked => further.covered_eq_false (fun next first => ?_) ends
        exact Bool.eq_false_iff.mpr (marked ▸ apart next first)
      have bare : ∀ next ∈ rest.head?, next.covered = true →
          covered (offset + run.text.length - 1) = false := by
        refine fun next first marked => last.trans ?_
        exact Bool.eq_false_iff.mpr (marked ▸ (apart next first).symm)
      have head : encloseFrom opening closing covered offset run.text =
          run.marked opening closing :=
        encloseFrom_eq_marked nonempty uniform (begins run rfl) stops
      rw [List.flatMap_cons, List.flatMap_cons, encloseFrom_append, head, ih bare ends]

end

/-! ## Marking spans -/

/-- Marking spans that lie within a text, in any order and however they overlap, touch or cover
nothing, copies the runs of the text in order and encloses each covered one once. Empty marks leave
the text as it is, even if spans reach past its end. -/
theorem wrapSpans_marks_runs (text : String) (spans : List Span) :
    ((∀ span ∈ spans, 0 ≤ span.start ∧ span.stop ≤ text.toList.length) →
      ∃ runs, AreRuns (isCovered spans) 0 runs ∧ runs.flatMap Run.text = text.toList ∧
        ∀ opening closing, (wrapSpans text opening closing spans).toList =
          runs.flatMap (Run.marked opening.toList closing.toList)) ∧
      ((∀ span ∈ spans, 0 ≤ span.start) → wrapSpans text "" "" spans = text) := by
  constructor
  · intro bounds
    obtain ⟨runs, areRuns, spelled⟩ := exists_areRuns (isCovered spans) 0 text.toList
    refine ⟨runs, areRuns, spelled, fun opening closing => ?_⟩
    have before : isCovered spans (0 - 1) = false := by
      refine isCovered_eq_false_of_lt fun span inside => ?_
      have start := (bounds span inside).1
      omega
    have behind : isCovered spans (0 + (runs.flatMap Run.text).length) = false := by
      refine List.any_eq_false.mpr fun span inside => ?_
      have stop := (bounds span inside).2
      rw [spelled]
      simp only [Bool.and_eq_true, decide_eq_true_eq]
      omega
    rw [wrapSpans_eq_enclosed opening closing bounds, enclosed, String.toList_ofList, ← spelled]
    exact areRuns.encloseFrom_eq (fun _ _ _ => before) behind
  · intro starts
    have kept := @filter_wrapSpans text "" "" (fun _ => true) rfl rfl spans starts
    rw [List.filter_eq_self.mpr fun _ _ => rfl, List.filter_eq_self.mpr fun _ _ => rfl] at kept
    exact String.toList_injective kept

/-- Spans out of order, of which two are the same, two touch, one is empty and one is reversed. -/
def untidySpans : List Span := [⟨4, 5⟩, ⟨1, 3⟩, ⟨3, 1⟩, ⟨0, 1⟩, ⟨5, 5⟩, ⟨1, 3⟩]

theorem wrapSpans_marks_untidy :
    (∀ span ∈ untidySpans, 0 ≤ span.start ∧ span.stop ≤ "abcdef".toList.length) ∧
      wrapSpans "abcdef" "<" ">" untidySpans = "<abc>d<e>f" ∧
      (∃ runs, AreRuns (isCovered untidySpans) 0 runs ∧
        runs.flatMap Run.text = "abcdef".toList ∧
        runs.flatMap (Run.marked "<".toList ">".toList) = "<abc>d<e>f".toList) ∧
      (∀ span ∈ [⟨1, 9⟩, ⟨0, 1⟩], 0 ≤ Span.start span) ∧
      wrapSpans "ab" "" "" [⟨1, 9⟩, ⟨0, 1⟩] = "ab" := by
  have bounds : ∀ span ∈ untidySpans, 0 ≤ span.start ∧ span.stop ≤ "abcdef".toList.length := by
    decide +kernel
  have starts : ∀ span ∈ [⟨1, 9⟩, ⟨0, 1⟩], 0 ≤ Span.start span := by decide
  have marked : wrapSpans "abcdef" "<" ">" untidySpans = "<abc>d<e>f" :=
    (wrapSpans_eq_enclosed "<" ">" bounds).trans (by decide +kernel)
  obtain ⟨runs, areRuns, spelled, copied⟩ := (wrapSpans_marks_runs "abcdef" untidySpans).1 bounds
  refine ⟨bounds, marked, ⟨runs, areRuns, spelled, ?_⟩, starts,
    (wrapSpans_marks_runs "ab" [⟨1, 9⟩, ⟨0, 1⟩]).2 starts⟩
  rw [← copied "<" ">", marked]

end JsonSeek.Match
