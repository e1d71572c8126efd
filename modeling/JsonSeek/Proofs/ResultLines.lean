import Mathlib.Data.List.Forall2
import JsonSeek.Proofs.JsonLine
import JsonSeek.Proofs.Lines
import JsonSeek.Proofs.MarkedText
import JsonSeek.Proofs.PathSearch
import JsonSeek.Proofs.PrunedDocument
import JsonSeek.Proofs.TextSearch
import JsonSeek.Report.Export
import JsonSeek.Report.Lines

/-!
# One line for each result

A report has a line for each result, and so has a list of paths. The path and the text that matched
are put into the line as they are, so that a newline in one of them starts another line; nothing
else in a line can hold a newline. `results_have_own_lines_iff` says when each result has a line of
its own.
-/

namespace JsonSeek

/-! ## Newlines in paths -/

namespace Path

theorem newline_mem_stepText_iff {step : Segment} :
    '\n' ∈ stepText step ↔ ∃ name, step = .key name ∧ '\n' ∈ name.toList := by
  cases step with
  | index i => simp [stepText, Text.newline_notMem_repr]
  | key name =>
      have quote : '\n' ≠ keyQuote name := by
        unfold keyQuote
        split <;> decide
      simp only [stepText, Segment.key.injEq, exists_eq_left']
      split <;> simp [quote]

/-- A path is written on one line exactly if no key on the way holds a newline. -/
theorem newline_mem_rooted_iff {path : Path} :
    '\n' ∈ (rooted path).toList ↔ ∃ name, .key name ∈ path ∧ '\n' ∈ name.toList := by
  simp only [rooted, String.toList_ofList, List.mem_cons, stepsText, List.mem_flatMap,
    newline_mem_stepText_iff]
  constructor
  · rintro (first | ⟨step, inside, name, rfl, newline⟩)
    · exact absurd first (by decide)
    · exact ⟨name, inside, newline⟩
  · rintro ⟨name, inside, newline⟩
    exact Or.inr ⟨_, inside, name, rfl, newline⟩

end Path

/-! ## Results of searches -/

namespace Search

theorem start_nonneg_of_mem_outcomeOf {m : Match.Matcher} {text : String} {span : Match.Span}
    (inside : span ∈ (outcomeOf m text).positions) : 0 ≤ span.start := by
  unfold outcomeOf at inside
  cases ran : m.run text.toList with
  | ok outcome =>
      rw [ran] at inside
      exact Match.Matcher.start_nonneg_of_mem_positions ran inside
  | error fault =>
      rw [ran] at inside
      cases inside

/-- A result of a search describes a node, and no span recorded with it starts before the text. -/
theorem exists_ofNode_of_search {o : Options} {document : Value} {response : Response}
    (searched : search o document = .ok response) {r : Result} (found : r ∈ response.results) :
    ∃ node score hits, r = .ofNode node score hits o.withAncestors ∧
      ∀ span ∈ hits.positions, 0 ≤ span.start := by
  cases mode : o.mode with
  | text textMode =>
      obtain ⟨m, -, node, -, rfl⟩ := exists_report mode searched found
      refine ⟨node, _, _, rfl, fun span inside => ?_⟩
      simp only at inside
      split at inside
      · exact start_nonneg_of_mem_outcomeOf inside
      · cases inside
  | jsonPath =>
      rcases response_cases mode searched with ⟨nodes, -, rfl⟩ | ⟨e, -, rfl⟩
      · obtain ⟨node, -, rfl⟩ := List.mem_map.mp found
        exact ⟨node, _, _, rfl, fun span inside => nomatch inside⟩
      · cases found

namespace Result

variable {r : Result}

/-- No key on the way to a result holds a newline. -/
def HasPlainPath (r : Result) : Prop := ∀ name, .key name ∈ r.segments → '\n' ∉ name.toList

/-- The text that is recorded with a result, if there is one, holds no newline. -/
def HasPlainText (r : Result) : Prop := ∀ text, r.hits.text = some text → '\n' ∉ text.toList

/-- The newlines of the text that is recorded with a result. -/
def textNewlines (r : Result) : Nat := r.hits.text.elim 0 fun text => text.toList.count '\n'

theorem textNewlines_eq_zero_iff : r.textNewlines = 0 ↔ r.HasPlainText := by
  unfold textNewlines HasPlainText
  cases r.hits.text <;> simp [List.count_eq_zero]

end Result

end Search

theorem Prune.IsFoundIn.newline_notMem_jsonPath_iff {document : Value} {r : Search.Result}
    (found : Prune.IsFoundIn document r) : '\n' ∉ r.jsonPath.toList ↔ r.HasPlainPath := by
  obtain ⟨o, response, searched, inside⟩ := found
  obtain ⟨node, score, hits, rfl, -⟩ := Search.exists_ofNode_of_search searched inside
  have spelled : '\n' ∈ (Path.rooted node.path).toList ↔ _ := Path.newline_mem_rooted_iff
  simpa [Search.Result.ofNode, Search.Result.HasPlainPath] using not_congr spelled

namespace Report

variable {document : Value} {marks : Marks} {r : Search.Result} {results : List Search.Result}

/-! ## Lines of results -/

theorem newline_notMem_preview (length : Int) (v : Value) : '\n' ∉ (preview length v).toList := by
  have written : '\n' ∉ (v.write .spaced).toList := by
    rw [Value.write, String.toList_ofList]
    exact Json.newline_notMem_writeAt v 0
  have part (stop : Int) : '\n' ∉ firstPart (v.write .spaced).toList stop := fun inside =>
    written (Match.mem_of_mem_cut inside)
  simp only [preview]
  split
  · rwa [String.toList_ofList]
  · split
    · rw [String.toList_ofList]
      exact part length
    · rw [String.toList_ofList]
      exact List.not_mem_append (part _) (by decide)

/-- What a line says last: the marked text or a preview. -/
def detail (marks : Marks) (previewLength : Int) (r : Search.Result) : String :=
  (r.marked? marks.openMark marks.closeMark).getD (preview previewLength r.value)

theorem toList_resultLine (marks : Marks) (previewLength : Int) (r : Search.Result) :
    (resultLine marks previewLength r).toList =
      r.jsonPath.toList ++ ([' ', ' '] ++ r.kind.toList ++ [' ', ' '] ++
        r.score.generalText.toList ++ [' ', ' '] ++ (detail marks previewLength r).toList) := by
  simp [resultLine, detail]

theorem jsonPath_isPrefix_resultLine (marks : Marks) (previewLength : Int) (r : Search.Result) :
    r.jsonPath.toList <+: (resultLine marks previewLength r).toList := by
  rw [toList_resultLine]
  exact List.prefix_append _ _

section

variable (plainOpen : '\n' ∉ marks.openMark.toList) (plainClose : '\n' ∉ marks.closeMark.toList)

include plainOpen plainClose

theorem count_detail (starts : ∀ span ∈ r.hits.positions, 0 ≤ span.start) (previewLength : Int) :
    (detail marks previewLength r).toList.count '\n' = r.textNewlines := by
  unfold detail Search.Result.marked? Search.Result.textNewlines
  cases r.hits.text with
  | none => exact List.count_eq_zero.mpr (newline_notMem_preview previewLength r.value)
  | some text =>
      simp only [Option.map_some, Option.getD_some, Option.elim_some]
      split
      · rfl
      · exact Match.count_wrapSpans plainOpen plainClose starts

/-- The newlines in the line for a result are those of its path and of its recorded text. -/
theorem count_resultLine (found : Prune.IsFoundIn document r) (previewLength : Int) :
    (resultLine marks previewLength r).toList.count '\n' =
      r.jsonPath.toList.count '\n' + r.textNewlines := by
  obtain ⟨o, response, searched, inside⟩ := found
  obtain ⟨node, score, hits, rfl, starts⟩ := Search.exists_ofNode_of_search searched inside
  have last := count_detail (r := .ofNode node score hits o.withAncestors) plainOpen plainClose
    starts previewLength
  have kind : node.value.kind.name.toList.count '\n' = 0 := by cases node.value.kind <;> decide
  have shownScore : score.generalText.toList.count '\n' = 0 :=
    List.count_eq_zero.mpr (Binary64.newline_notMem_generalText score)
  have gap : [' ', ' '].count '\n' = 0 := by decide
  simp only [toList_resultLine, List.count_append, last, gap]
  simp only [Search.Result.ofNode, kind, shownScore, Nat.zero_add]

theorem newline_notMem_resultLine_iff (found : Prune.IsFoundIn document r) (previewLength : Int) :
    '\n' ∉ (resultLine marks previewLength r).toList ↔ r.HasPlainPath ∧ r.HasPlainText := by
  rw [← List.count_eq_zero, count_resultLine plainOpen plainClose found, Nat.add_eq_zero_iff,
    List.count_eq_zero, found.newline_notMem_jsonPath_iff, Search.Result.textNewlines_eq_zero_iff]

end

theorem toList_resultLines (marks : Marks) (previewLength : Int) (results : List Search.Result) :
    (resultLines marks previewLength results).toList =
      List.intercalate ['\n'] (results.map fun r => (resultLine marks previewLength r).toList) := by
  rw [resultLines, String.toList_intercalate, List.map_map]
  rfl

theorem toList_exportResults_paths (indent : Option Int) (results : List Search.Result) :
    (exportResults .paths indent results).toList =
      List.intercalate ['\n'] (results.map (·.jsonPath.toList)) := by
  rw [exportResults, String.toList_intercalate, List.map_map]
  rfl

/-- A report has a line for each result and one more for each newline in a path or a recorded
text. -/
theorem length_linesOf_resultLines (plainOpen : '\n' ∉ marks.openMark.toList)
    (plainClose : '\n' ∉ marks.closeMark.toList) (some : results ≠ [])
    (found : ∀ r ∈ results, Prune.IsFoundIn document r) (previewLength : Int) :
    (linesOf (resultLines marks previewLength results).toList).length =
      results.length +
        (results.map fun r => r.jsonPath.toList.count '\n' + r.textNewlines).sum := by
  rw [toList_resultLines, length_linesOf_intercalate (List.map_eq_nil_iff.not.mpr some),
    List.length_map, List.map_map]
  congr 2
  exact List.map_congr_left fun r inside =>
    count_resultLine plainOpen plainClose (found r inside) previewLength

/-- If the marks hold no newline, then each result has one line, which starts with its path, exactly
if no key on the way to a result and no recorded text holds a newline. Each newline there makes one
more line. The lines of a list of paths are the paths exactly if no key on the way to a result holds
a newline. -/
theorem results_have_own_lines_iff (plainOpen : '\n' ∉ marks.openMark.toList)
    (plainClose : '\n' ∉ marks.closeMark.toList) (some : results ≠ [])
    (found : ∀ r ∈ results, Prune.IsFoundIn document r) (previewLength : Int)
    (indent : Option Int) :
    (linesOf (resultLines marks previewLength results).toList).length =
        results.length +
          (results.map fun r => r.jsonPath.toList.count '\n' + r.textNewlines).sum ∧
      (List.Forall₂ (fun r line => r.jsonPath.toList <+: line) results
          (linesOf (resultLines marks previewLength results).toList) ↔
        ∀ r ∈ results, r.HasPlainPath ∧ r.HasPlainText) ∧
      (linesOf (exportResults .paths indent results).toList =
          results.map (·.jsonPath.toList) ↔
        ∀ r ∈ results, r.HasPlainPath) := by
  have someLines : results.map (fun r => (resultLine marks previewLength r).toList) ≠ [] :=
    List.map_eq_nil_iff.not.mpr some
  have somePaths : results.map (·.jsonPath.toList) ≠ [] := List.map_eq_nil_iff.not.mpr some
  have plainLines := fun r inside =>
    newline_notMem_resultLine_iff plainOpen plainClose (found r inside) previewLength
  refine ⟨length_linesOf_resultLines plainOpen plainClose some found previewLength, ?_⟩
  rw [toList_resultLines, toList_exportResults_paths]
  refine ⟨⟨fun own => ?_, fun plain => ?_⟩, fun own => ?_, fun plain => ?_⟩
  · have asMany := own.length_eq.symm
    rw [← List.length_map (fun r => (resultLine marks previewLength r).toList),
      length_linesOf_intercalate_eq_iff someLines] at asMany
    exact fun r inside => (plainLines r inside).mp (asMany _ (List.mem_map_of_mem inside))
  · rw [linesOf_intercalate someLines, List.forall₂_map_right_iff, List.forall₂_same]
    · exact fun r _ => jsonPath_isPrefix_resultLine marks previewLength r
    · intro line shown
      obtain ⟨r, inside, rfl⟩ := List.mem_map.mp shown
      exact (plainLines r inside).mpr (plain r inside)
  · have asMany := (length_linesOf_intercalate_eq_iff somePaths).mp (congrArg List.length own)
    exact fun r inside => (found r inside).newline_notMem_jsonPath_iff.mp
      (asMany _ (List.mem_map_of_mem inside))
  · refine linesOf_intercalate somePaths fun path shown => ?_
    obtain ⟨r, inside, rfl⟩ := List.mem_map.mp shown
    exact (found r inside).newline_notMem_jsonPath_iff.mpr (plain r inside)

/-- A search for a letter that counts case. -/
def forLetter : Search.Options :=
  Search.Request.fill .default { query := "x", caseSensitive := some true }

/-- A field that is found by its key, with a newline in its value, and one that is found by its
value. -/
def twoFound : Value := .obj [("ax", .str "p\nq"), ("b", .str "xz")]

/-- A newline in a value that is not marked starts no line. -/
theorem results_have_own_lines_of_two :
    ∃ response, Search.search forLetter twoFound = .ok response ∧
      response.results.map (fun r => (r.jsonPath, r.textNewlines)) = [("$.ax", 0), ("$.b", 0)] ∧
      '\n' ∉ Marks.colour.openMark.toList ∧ '\n' ∉ Marks.colour.closeMark.toList ∧
      response.results ≠ [] ∧ (∀ r ∈ response.results, Prune.IsFoundIn twoFound r) ∧
      List.Forall₂ (fun r line => r.jsonPath.toList <+: line) response.results
        (linesOf (resultLines .colour 60 response.results).toList) := by
  have runs : ¬ Search.BreaksDown (.simple true ['x']) forLetter twoFound :=
    Search.not_breaksDown Match.TextMode.noConfusion
  obtain ⟨response, searched, shown⟩ : ∃ response, Search.search forLetter twoFound = .ok response ∧
      response.results.map (fun r => (r.jsonPath, r.textNewlines)) = [("$.ax", 0), ("$.b", 0)] :=
    ⟨_, Search.search_of_not_breaksDown (o := forLetter) rfl rfl runs, by decide +kernel⟩
  have plainOpen : '\n' ∉ Marks.colour.openMark.toList := by decide
  have plainClose : '\n' ∉ Marks.colour.closeMark.toList := by decide
  have some : response.results ≠ [] := fun none => by
    rw [none] at shown
    cases shown
  have found : ∀ r ∈ response.results, Prune.IsFoundIn twoFound r := fun r inside =>
    ⟨forLetter, response, searched, inside⟩
  have plain : ∀ r ∈ response.results, '\n' ∉ r.jsonPath.toList ∧ r.textNewlines = 0 := by
    have listed : ∀ pair ∈ [("$.ax", 0), ("$.b", 0)], '\n' ∉ pair.1.toList ∧ pair.2 = 0 := by decide
    intro r inside
    have member : (r.jsonPath, r.textNewlines) ∈ [("$.ax", 0), ("$.b", 0)] :=
      shown ▸ List.mem_map.mpr ⟨r, inside, rfl⟩
    exact listed (r.jsonPath, r.textNewlines) member
  have own := (results_have_own_lines_iff plainOpen plainClose some found 60 none).2.1
  refine ⟨response, searched, shown, plainOpen, plainClose, some, found, own.mpr ?_⟩
  exact fun r inside => ⟨(found r inside).newline_notMem_jsonPath_iff.mp (plain r inside).1,
    Search.Result.textNewlines_eq_zero_iff.mp (plain r inside).2⟩

/-- A field with a newline in its key and another one in its value. -/
def brokenField : Value := .obj [("k\nl", .str "x\ny")]

/-- One result takes three lines of a report and two of a list of paths. -/
theorem results_lack_own_lines :
    ∃ response, Search.search forLetter brokenField = .ok response ∧
      response.results.length = 1 ∧
      (linesOf (resultLines .colour 60 response.results).toList).length = 3 ∧
      linesOf (exportResults .paths none response.results).toList =
        ["$.k".toList, "l".toList] := by
  have runs : ¬ Search.BreaksDown (.simple true ['x']) forLetter brokenField :=
    Search.not_breaksDown Match.TextMode.noConfusion
  have searched := Search.search_of_not_breaksDown (o := forLetter) rfl rfl runs
  refine ⟨_, searched, by decide +kernel, ?_, by decide +kernel⟩
  rw [length_linesOf_resultLines (by decide) (by decide) (by decide +kernel) fun r inside =>
    ⟨_, _, searched, inside⟩]
  decide +kernel

end Report

end JsonSeek
