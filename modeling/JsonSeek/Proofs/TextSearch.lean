import JsonSeek.Proofs.Ranking
import JsonSeek.Proofs.TextScan

/-!
# The meaning of a text search

A text search reports the first hits among the nodes that it reaches, up to the limit, ranked by the
number of texts found. Only a pattern can keep it from doing so, by breaking down on a text that it
has to look at before the limit is reached.
-/

namespace JsonSeek.Search

section

variable (m : Match.Matcher) (o : Options) (document : Value)

/-- The nodes that a search reaches, in document order. -/
def reachedNodes : List Node := document.nodes.filter o.reaches

/-- The hits that a search reports, in document order. -/
def firstHits : List Node := ((reachedNodes o document).filter (isHit m o)).take o.limit.toNat

/-- Before the limit is reached, the matcher breaks down on a text that the search looks at. -/
def BreaksDown : Prop :=
  ∃ before node after, reachedNodes o document = before ++ node :: after ∧
    ((before.filter (isHit m o)).length : Int) < o.limit ∧ breaksOn m o node = true

/-- The scan of a whole document. -/
def textScan : Scan := Scan.start.after m o (reachedNodes o document)

variable {m o document}

theorem breaksDown_iff :
    BreaksDown m o document ↔
      (readUntil (isHit m o) o.limit.toNat (reachedNodes o document)).any
        (breaksOn m o) = true := by
  rw [List.any_eq_true]
  constructor
  · rintro ⟨before, node, after, split, fewer, breaks⟩
    exact ⟨node, mem_readUntil_iff.mpr ⟨before, after, split, by omega⟩, breaks⟩
  · rintro ⟨node, inside, breaks⟩
    obtain ⟨before, after, split, fewer⟩ := mem_readUntil_iff.mp inside
    exact ⟨before, node, after, split, by omega, breaks⟩

/-- Only a pattern breaks down. -/
theorem not_breaksDown (notPattern : m.mode ≠ .regex) : ¬ BreaksDown m o document := by
  rintro ⟨before, node, after, -, -, breaks⟩
  have never : failsOn m = fun _ => false := funext (failsOn_eq_false m notPattern)
  unfold breaksOn at breaks
  cases text : node.value.text? <;> simp [never, text] at breaks

theorem mode_of_prepare {mode : Match.TextMode} {query : String} {caseSensitive : Bool}
    {threshold : Binary64}
    (prepared : Match.Matcher.prepare mode query caseSensitive threshold = .ok m) :
    m.mode = mode := by
  cases mode with
  | simple => cases prepared; rfl
  | fuzzy => cases prepared; rfl
  | regex =>
      simp only [Match.Matcher.prepare] at prepared
      cases compiled : Match.compile query caseSensitive with
      | error fault => simp [compiled, Except.map] at prepared
      | ok pattern =>
          simp only [compiled, Except.map, Except.ok.injEq] at prepared
          rw [← prepared]
          rfl

theorem isHit_of_mem_firstHits {node : Node} (inside : node ∈ firstHits m o document) :
    isHit m o node = true :=
  (List.mem_filter.mp (List.mem_of_mem_take inside)).2

/-- Ranking only moves the first hits. -/
theorem perm_grouped_firstHits :
    (grouped (scopeCount m o) (firstHits m o document)).Perm (firstHits m o document) :=
  perm_grouped _ fun _ inside =>
    ⟨scopeCount_pos_of_isHit (isHit_of_mem_firstHits inside), scopeCount_le⟩

section Prepared

variable {mode : Match.TextMode} (texts : o.mode = .text mode)
  (prepared : Match.Matcher.prepare mode o.query o.caseSensitive o.threshold = .ok m)

include texts prepared

theorem search_of_breaksDown (breaks : BreaksDown m o document) :
    search o document = .error (.pattern .crossedGroup) := by
  have stopped : scanTexts m o document = .error .crossedGroup := by
    rw [scanTexts_eq]
    exact if_pos (breaksDown_iff.mp breaks)
  simp [search, scan, texts, prepared, stopped]

/-- The whole response of a text search that does not break down. -/
theorem search_of_not_breaksDown (runs : ¬ BreaksDown m o document) :
    search o document = .ok {
      results := (grouped (scopeCount m o) (firstHits m o document)).map (report m o)
      statistics := .ofResults o.mode.name (textScan m o document).deepest
        (textScan m o document).truncated ((firstHits m o document).map (report m o))
      events := textEvents m (textScan m o document) ++ [.finished] } := by
  have scanned : scanTexts m o document = .ok (textScan m o document) := by
    rw [scanTexts_eq]
    exact if_neg fun breaks => runs (breaksDown_iff.mpr breaks)
  have found : (textScan m o document).results = (firstHits m o document).map (report m o) :=
    after_start_results m o _
  simp only [search, scan, texts, prepared, scanned, found]
  rw [rank_map_report m o fun node inside => isHit_of_mem_firstHits inside]

/-- A text search reports exactly the first hits among the nodes that it reaches, in groups by the
number of texts found and in document order within a group. It fails exactly if the matcher breaks
down on a text before the limit, which only a pattern does. -/
theorem search_eq_ranked_first_hits (document : Value) :
    (BreaksDown m o document ∧ mode = .regex ∧
        search o document = .error (.pattern .crossedGroup)) ∨
      (¬ BreaksDown m o document ∧ ∃ response, search o document = .ok response ∧
        response.results =
          ([3, 2, 1].flatMap fun n =>
            (firstHits m o document).filter (scopeCount m o · = n)).map (report m o)) := by
  by_cases breaks : BreaksDown m o document
  · have isPattern : mode = .regex := Decidable.byContradiction fun other =>
      not_breaksDown (by rwa [mode_of_prepare prepared]) breaks
    exact Or.inl ⟨breaks, isPattern, search_of_breaksDown texts prepared breaks⟩
  · exact Or.inr ⟨breaks, _, search_of_not_breaksDown texts prepared breaks, rfl⟩

end Prepared

/-- A text search that answers has prepared its query, and its matcher does not break down. -/
theorem exists_matcher_of_search {mode : Match.TextMode} (texts : o.mode = .text mode)
    {response : Response} (searched : search o document = .ok response) :
    ∃ m, Match.Matcher.prepare mode o.query o.caseSensitive o.threshold = .ok m ∧
      ¬ BreaksDown m o document := by
  cases prepared : Match.Matcher.prepare mode o.query o.caseSensitive o.threshold with
  | error fault => simp [search, scan, texts, prepared] at searched
  | ok m =>
      refine ⟨m, rfl, fun breaks => ?_⟩
      rw [search_of_breaksDown texts prepared breaks] at searched
      cases searched

/-- Every result of a text search is the report of one of the first hits. -/
theorem exists_report {mode : Match.TextMode} (texts : o.mode = .text mode) {response : Response}
    (searched : search o document = .ok response) {r : Result} (found : r ∈ response.results) :
    ∃ m, Match.Matcher.prepare mode o.query o.caseSensitive o.threshold = .ok m ∧
      ∃ node ∈ firstHits m o document, r = report m o node := by
  obtain ⟨m, prepared, runs⟩ := exists_matcher_of_search texts searched
  rw [search_of_not_breaksDown texts prepared runs] at searched
  cases searched
  obtain ⟨node, inside, rfl⟩ := List.mem_map.mp found
  exact ⟨m, prepared, node, perm_grouped_firstHits.mem_iff.mp inside, rfl⟩

/-- A document in which one field is found by its value and the next by its key as well. -/
def twiceNamed : Value := .obj [("a", .str "xy"), ("xy", .str "xyz"), ("b", .arr [.str "xy"])]

/-- A search that counts case and stops after two results. -/
def firstTwo : Options :=
  Request.fill .default { query := "xy", caseSensitive := some true, limit := some 2 }

/-- The field that is found twice comes first, and the limit leaves out the array element. -/
theorem search_ranks_field_found_twice :
    firstTwo.mode = .text .simple ∧
      Match.Matcher.prepare .simple firstTwo.query firstTwo.caseSensitive firstTwo.threshold =
        .ok (.simple true ['x', 'y']) ∧
      ∃ response, search firstTwo twiceNamed = .ok response ∧
        response.results.map (·.jsonPath) = ["$.xy", "$.a"] := by
  refine ⟨rfl, rfl, ?_⟩
  rcases search_eq_ranked_first_hits (o := firstTwo) rfl rfl twiceNamed with
    ⟨-, isPattern, -⟩ | ⟨-, response, searched, results⟩
  · cases isPattern
  · refine ⟨response, searched, ?_⟩
    rw [results]
    decide +kernel

/-- A search of string values by a pattern that captures within a possessive repetition. -/
def possessive : Options :=
  Request.fill .default
    { query := "((x)|y|z)*+", mode := .text .regex, caseSensitive := some true
      inKeys := some false }

/-- A pattern that can be prepared may still break down, and then there is no response. -/
theorem search_fails_on_crossed_group :
    (∃ m, Match.Matcher.prepare .regex possessive.query possessive.caseSensitive
        possessive.threshold = .ok m) ∧
      ∀ response, search possessive (.str "xyz") ≠ .ok response := by
  have prepared : (Match.Matcher.prepare .regex possessive.query possessive.caseSensitive
      possessive.threshold).isOk = true := by decide +kernel
  have failed : (search possessive (.str "xyz")).isOk = false := by decide +kernel
  constructor
  · cases outcome : Match.Matcher.prepare .regex possessive.query possessive.caseSensitive
        possessive.threshold with
    | ok m => exact ⟨m, rfl⟩
    | error fault =>
        rw [outcome] at prepared
        cases prepared
  · intro response answered
    rw [answered] at failed
    cases failed

end

end JsonSeek.Search
