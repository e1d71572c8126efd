import JsonSeek.Proofs.PatternPlaces
import JsonSeek.Proofs.TextSearch
import JsonSeek.Report.Highlight

/-!
# Recorded and fresh marks

A result records the text that matched last together with the spans that matched in it. Marking
these spans gives the same as running the query on that text afresh
(`search_records_fresh_marks`). The two agree also where one of them does not look: an empty query
and an empty text never have anything to mark.
-/

namespace JsonSeek

namespace Match.Matcher

variable {m : Matcher} {text : List Char} {outcome : Outcome}

/-! ## Nothing to mark -/

/-- Empty matches of a pattern are not marked. -/
theorem positions_of_empty_spans {pattern : Option Regex.Pattern}
    (ran : (regex pattern).run text = .ok outcome)
    (empty : ∀ p spans, pattern = some p → p.spans text = .ok spans →
      ∀ span ∈ spans, ¬ span.1 < span.2) : outcome.positions = [] := by
  cases pattern with
  | none =>
      cases ran
      rfl
  | some pattern =>
      simp only [run] at ran
      split at ran
      · rename_i spans found
        cases ran
        have hidden : spans.filter (fun span => span.1 < span.2) = [] := by
          simpa using empty pattern spans rfl found
        unfold outcomeOfMatches
        split
        · rfl
        · exact congrArg (List.map _) hidden
      · cases ran

/-- Nothing is marked in an empty text. -/
theorem positions_of_empty_text (ran : m.run [] = .ok outcome) : outcome.positions = [] := by
  cases m with
  | simple caseSensitive query =>
      have lowered : normalize caseSensitive [] = [] := by cases caseSensitive <;> rfl
      have nothing : occurrences query [] = [] := ite_self _
      cases ran
      simp only [runSimple, lowered, nothing]
      split <;> rfl
  | fuzzy caseSensitive query threshold =>
      have lowered : normalize caseSensitive [] = [] := by cases caseSensitive <;> rfl
      have nothing : taken [] query = [] := rfl
      cases ran
      simp only [runFuzzy, lowered, nothing]
      split <;> rfl
  | regex pattern =>
      refine positions_of_empty_spans ran fun p spans _ found span inside => ?_
      have within := (Regex.spans_within found span inside).2
      exact Nat.not_lt.mpr (Nat.le_trans within (Nat.zero_le _))

/-- An empty query marks nothing. -/
theorem positions_of_empty_query {mode : TextMode} {caseSensitive : Bool} {threshold : Binary64}
    (prepared : prepare mode "" caseSensitive threshold = .ok m) (ran : m.run text = .ok outcome) :
    outcome.positions = [] := by
  have lowered : normalize caseSensitive [] = [] := by cases caseSensitive <;> rfl
  cases mode with
  | simple =>
      cases prepared
      cases ran
      simp only [runSimple]
      split
      · exact if_pos (congrArg List.isEmpty lowered)
      · rfl
  | fuzzy =>
      cases prepared
      cases ran
      have never : fuzzyMatches (normalize caseSensitive text) (normalize caseSensitive [])
          threshold = false := by
        rw [fuzzyMatches, lowered]
        rfl
      exact congrArg Outcome.positions (if_neg (by simp [never]))
  | regex =>
      have plain : prepare .regex "" caseSensitive threshold =
          .ok (regex (some ⟨[], 0, none, 0, 0⟩)) := by
        cases caseSensitive <;> rfl
      rw [plain] at prepared
      cases prepared
      refine positions_of_empty_spans ran fun p spans same found span inside => ?_
      cases same
      exact Nat.not_lt.mpr (Nat.le_of_eq (Regex.spans_of_no_nodes rfl found span inside).symm)

end Match.Matcher

namespace Search

variable {m : Match.Matcher} {o : Options} {node : Node} {document : Value} {response : Response}

/-! ## What a result records -/

/-- A text that matches is one that the matcher can be run on. -/
theorem run_of_matched {text : String} (matched : (outcomeOf m text).matched = true) :
    m.run text.toList = .ok (outcomeOf m text) := by
  rw [run_eq]
  cases fails : failsOn m text with
  | false => rfl
  | true =>
      unfold failsOn at fails
      unfold outcomeOf at matched
      split at fails
      · cases fails
      · rename_i fault failed
        rw [failed] at matched
        cases matched

/-- The text that a hit records is one that matches. -/
theorem exists_lastFound (hit : isHit m o node = true) :
    ∃ text, lastFound m o node = some text ∧ (outcomeOf m text).matched = true := by
  have found := (Bool.and_eq_true_iff.mp hit).2
  unfold lastFound
  split
  · rename_i path
    exact ⟨_, rfl, (Bool.and_eq_true_iff.mp path).2⟩
  · rename_i noPath
    split
    · rename_i value
      exact (Option.any_eq_true _ _).mp (Bool.and_eq_true_iff.mp value).2
    · rename_i noValue
      have key : keyFound m o node = true := by
        simpa [noPath, noValue] using found
      exact ⟨_, if_pos key, (Bool.and_eq_true_iff.mp key).2⟩

/-! ## Marking -/

/-- The query of a search, to be marked in texts. -/
def Options.highlighter (o : Options) : Report.Highlighter where
  query := o.query
  mode := o.mode
  caseSensitive := o.caseSensitive
  threshold := o.threshold

/-- The marks that a text search records with a result are those that its query makes in the
recorded text. -/
theorem search_records_fresh_marks {mode : Match.TextMode} (texts : o.mode = .text mode)
    (searched : search o document = .ok response) {r : Result} (found : r ∈ response.results)
    (opening closing : String) :
    ∃ text marked, r.hits.text = some text ∧ r.marked? opening closing = some marked ∧
      o.highlighter.mark opening closing text = .ok marked := by
  obtain ⟨m, prepared, node, inside, rfl⟩ := exists_report texts searched found
  obtain ⟨text, recorded, matched⟩ := exists_lastFound (isHit_of_mem_firstHits inside)
  have ran := run_of_matched matched
  have shown : (report m o node).marked? opening closing =
      some (if (outcomeOf m text).positions.isEmpty then text
        else Match.wrapSpans text opening closing (outcomeOf m text).positions) := by
    simp [Result.marked?, report, Result.ofNode, recorded]
  refine ⟨text, _, recorded, shown, ?_⟩
  simp only [Report.Highlighter.mark, Options.highlighter, texts]
  split
  · rename_i skipped
    have nothing : (outcomeOf m text).positions = [] := by
      rcases Bool.or_eq_true_iff.mp skipped with noQuery | noText
      · rw [String.isEmpty_iff.mp noQuery] at prepared
        exact Match.Matcher.positions_of_empty_query prepared ran
      · rw [String.isEmpty_iff.mp noText] at ran ⊢
        exact Match.Matcher.positions_of_empty_text ran
    rw [nothing]
    rfl
  · simp only [prepared, Match.Matcher.highlight, ran, Except.map, Match.Matcher.markedBy, matched,
      Bool.true_and]
    cases (outcomeOf m text).positions.isEmpty <;> rfl

/-- A search by subsequence that takes every text, however little of the query it holds. -/
def lenient : Options :=
  Request.fill .default
    { query := "y", mode := .text .fuzzy, caseSensitive := some true, threshold := some .zero }

/-- A string below an empty key. -/
def emptyKey : Value := .obj [("", .str "xyy")]

/-- Every node is found, also where nothing is there to mark. -/
theorem search_records_marks_of_lenient :
    lenient.mode = .text .fuzzy ∧ ∃ response, search lenient emptyKey = .ok response ∧
      response.results.map (fun r => (r.hits.text, r.hits.positions)) =
        [(some "xyy", [⟨1, 2⟩]), (some "root", [])] ∧
      ∀ r ∈ response.results, ∃ text marked, r.hits.text = some text ∧
        r.marked? "<" ">" = some marked ∧ lenient.highlighter.mark "<" ">" text = .ok marked := by
  have runs : ¬ BreaksDown (.fuzzy true ['y'] .zero) lenient emptyKey :=
    not_breaksDown Match.TextMode.noConfusion
  have searched := search_of_not_breaksDown (o := lenient) rfl rfl runs
  exact ⟨rfl, _, searched, by decide +kernel,
    fun r found => search_records_fresh_marks rfl searched found "<" ">"⟩

end Search

end JsonSeek
