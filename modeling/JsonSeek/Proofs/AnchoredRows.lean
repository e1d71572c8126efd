import JsonSeek.Proofs.EscapedText
import JsonSeek.Proofs.PatternPlaces
import JsonSeek.Proofs.SearchFailure
import JsonSeek.Search.FilterRow

/-!
# Rows that look for a beginning or an end

A filter row can ask for texts that start with its value, or that end with it. Both are searched by
a pattern of literals with an anchor. Literals match the text that they spell and no other
(`runSequence_literals`, `runSequence_literals_eq_fail`), and the anchor decides where.

The start of a line is the start of the text, so that beginnings are found exactly and once
(`startsWith_row_finds_beginnings`). The end of a line is also in front of a line feed that ends the
text. So a row that looks for an end takes a text that ends with its value and a line feed for one
that ends with its value (`endsWith_row_finds_ends`).
-/

namespace JsonSeek

namespace Regex

/-! ## Running literals -/

theorem accepts_literal_iff {c d : Char} :
    (CharTest.literal .exact false c.toNat).accepts d = true ↔ d = c := by
  have same : (CharTest.literal .exact false c.toNat).accepts d = (d.toNat == c.toNat) := by
    simp [CharTest.accepts, literalHolds, Folding.hasCase]
  rw [same, beq_iff_eq]
  exact Char.toNat_inj

/-- Literals lead behind a text that consists of them. -/
theorem runSequence_literals (word rest : List Char) (nodes : List Node) (looped : Bool)
    (next : Option CharTest) (k : Continuation) (offset : Nat) (before : List Char)
    (reached : Place) (bounds : Bounds) :
    runSequence (word.map (literalNode .exact) ++ nodes) looped next k
        ⟨⟨offset, before, word ++ rest⟩, reached, bounds⟩ =
      runSequence nodes looped next k
        ⟨⟨offset + word.length, word.reverse ++ before, rest⟩, reached, bounds⟩ := by
  induction word generalizing offset before with
  | nil => rfl
  | cons c word ih =>
      have step : Place.step? ⟨offset, before, c :: (word ++ rest)⟩
          (.literal .exact false c.toNat) = some ⟨offset + 1, c :: before, word ++ rest⟩ :=
        if_pos (accepts_literal_iff.mpr rfl)
      rw [List.map_cons, List.cons_append, List.cons_append, runSequence, literalNode, Node.run]
      simp only [step]
      rw [ih]
      simp [Nat.add_assoc, Nat.add_comm 1]

/-- Literals fail in front of any other text. -/
theorem runSequence_literals_eq_fail {word : List Char} {s : State}
    (other : ¬ word <+: s.place.after) (nodes : List Node) (looped : Bool)
    (next : Option CharTest) (k : Continuation) :
    runSequence (word.map (literalNode .exact) ++ nodes) looped next k s = s.fail := by
  induction word generalizing s with
  | nil => exact absurd List.nil_prefix other
  | cons c word ih =>
      obtain ⟨⟨offset, before, after⟩, reached, bounds⟩ := s
      rw [List.map_cons, List.cons_append, runSequence, literalNode, Node.run]
      cases after with
      | nil => rfl
      | cons d after =>
          simp only [Place.step?]
          by_cases same : d = c
          · subst same
            rw [if_pos (accepts_literal_iff.mpr rfl)]
            exact ih fun found => other (List.cons_prefix_cons.mpr ⟨rfl, found⟩)
          · rw [if_neg fun accepts => same (accepts_literal_iff.mp accepts)]

/-! ## Searching for a pattern that may begin with any character -/

/-- The match at a place, or else the first one behind it. -/
theorem searchFrom_succ {pattern : Pattern} (anywhere : pattern.first = none) (fuel : Nat)
    (nonempty : Bool) (place : Place) :
    pattern.searchFrom (fuel + 1) nonempty place =
      (pattern.matchAt nonempty place).or (place.next?.bind (pattern.searchFrom fuel false)) := by
  have tried : pattern.isTriedAt place = true := by
    rw [Pattern.isTriedAt, anywhere]
    rfl
  rw [Pattern.searchFrom, tried, if_pos rfl]
  cases pattern.matchAt nonempty place with
  | some found => rfl
  | none => cases place.next? <;> rfl

/-! ## Words at the start -/

theorem sequenceWidth_literals_append (word : List Char) (nodes : List Node) :
    (sequenceWidth (word.map (literalNode .exact) ++ nodes)).least =
      word.length + (sequenceWidth nodes).least := by
  induction word with
  | nil => exact (Nat.zero_add _).symm
  | cons c word ih =>
      have front : (sequenceWidth ((c :: word).map (literalNode .exact) ++ nodes)).least =
          1 + (sequenceWidth (word.map (literalNode .exact) ++ nodes)).least := rfl
      rw [front, ih, List.length_cons]
      omega

variable {word : List Char}

theorem least_startPattern : (startPattern word).least = word.length := by
  have width := sequenceWidth_literals_append word []
  rw [List.append_nil] at width
  have front : (startPattern word).least =
      0 + (sequenceWidth (word.map (literalNode .exact))).least := rfl
  rw [front, width]
  exact Nat.zero_add _

theorem nodes_startPattern : (startPattern word).nodes =
    .anchor (.lineStart false) :: word.map (literalNode .exact) := rfl

theorem first_startPattern : (startPattern word).first = none := rfl

theorem untried_startPattern : (startPattern word).untried = word.length - 1 := by
  rw [← least_startPattern]
  rfl

/-- Nothing is found behind the start of a text. -/
theorem matchAt_startPattern_of_before {nonempty : Bool} {place : Place}
    (before : place.before ≠ []) : (startPattern word).matchAt nonempty place = none := by
  have inside : (Anchor.lineStart false).holds place = false := by
    simp [Anchor.holds, before]
  rw [Pattern.matchAt, nodes_startPattern]
  simp only [runSequence, Node.run, inside]
  rfl

theorem searchFrom_startPattern_of_before {fuel : Nat} {nonempty : Bool} {place : Place}
    (before : place.before ≠ []) : (startPattern word).searchFrom fuel nonempty place = none := by
  induction fuel generalizing nonempty place with
  | zero => rfl
  | succ fuel ih =>
      rw [searchFrom_succ first_startPattern, matchAt_startPattern_of_before before,
        Option.none_or, Place.next?]
      cases place.after with
      | nil => rfl
      | cons c rest => exact ih (List.cons_ne_nil _ _)

theorem search_startPattern_of_before {nonempty : Bool} {place : Place}
    (before : place.before ≠ []) : (startPattern word).search nonempty place = none := by
  unfold Pattern.search
  split
  · rfl
  · exact searchFrom_startPattern_of_before before

theorem matchAt_startPattern_start (text : List Char) :
    (startPattern word).matchAt false (.start text) =
      match runSequence (word.map (literalNode .exact) ++ []) false none finish
        ⟨.start text, .start text, []⟩ with
      | .matched s => some ⟨0, s.place, s.bounds⟩
      | .failed .. => none := by
  rw [List.append_nil]
  rfl

/-- At the start of a text that begins with the word, the word is found. -/
theorem matchAt_startPattern_append (rest : List Char) :
    (startPattern word).matchAt false (.start (word ++ rest)) =
      some ⟨0, ⟨word.length, word.reverse, rest⟩, []⟩ := by
  rw [matchAt_startPattern_start, Place.start, runSequence_literals, Nat.zero_add, List.append_nil]
  rfl

theorem matchAt_startPattern_eq_none {text : List Char} (other : ¬ word <+: text) :
    (startPattern word).matchAt false (.start text) = none := by
  rw [matchAt_startPattern_start, runSequence_literals_eq_fail other]
  rfl

/-- A search in a whole text comes to what is found at its start. -/
theorem search_startPattern_start (text : List Char) :
    (startPattern word).search false (.start text) =
      (startPattern word).matchAt false (.start text) := by
  unfold Pattern.search
  rw [least_startPattern, untried_startPattern]
  split
  · rename_i shorter
    have other : ¬ word <+: text := fun found => Nat.not_le.mpr shorter found.length_le
    exact (matchAt_startPattern_eq_none other).symm
  · rename_i long
    -- fewer places are left untried than the text has, so that its start is among the others
    obtain ⟨fuel, some_fuel⟩ : ∃ fuel, (Place.start text).after.length + 1 - (word.length - 1) =
        fuel + 1 := ⟨_, (Nat.succ_pred_eq_of_pos (by omega)).symm⟩
    have nothing : (Place.start text).next?.bind ((startPattern word).searchFrom fuel false) =
        none := by
      cases text with
      | nil => rfl
      | cons c rest => exact searchFrom_startPattern_of_before (List.cons_ne_nil _ _)
    rw [some_fuel, searchFrom_succ first_startPattern, nothing, Option.or_none]

/-- In a text that begins with a word, the word is found once. -/
theorem spans_startPattern_append (filled : word ≠ []) (rest : List Char) :
    (startPattern word).spans (word ++ rest) = .ok [(0, word.length)] := by
  have later : (startPattern word).spansFrom (2 * (word ++ rest).length + 1) (0 == word.length)
      ⟨word.length, word.reverse, rest⟩ = .ok [] := by
    rw [Pattern.spansFrom,
      search_startPattern_of_before (List.reverse_ne_nil_iff.mpr filled)]
  rw [Pattern.spans, Pattern.spansFrom, search_startPattern_start, matchAt_startPattern_append]
  simp only [Bounds.areCrossed, Bool.false_eq_true, if_false]
  rw [later]
  rfl

/-- In any other text it is not found at all. -/
theorem spans_startPattern_eq_nil {text : List Char} (other : ¬ word <+: text) :
    (startPattern word).spans text = .ok [] := by
  rw [Pattern.spans, Pattern.spansFrom, search_startPattern_start,
    matchAt_startPattern_eq_none other]

/-! ## Words at the end -/

theorem least_endPattern : (endPattern word).least = word.length :=
  sequenceWidth_literals_append word [.anchor (.lineEnd false)]

theorem nodes_endPattern : (endPattern word).nodes =
    word.map (literalNode .exact) ++ [.anchor (.lineEnd false)] := rfl

theorem holds_lineEnd_iff {place : Place} :
    (Anchor.lineEnd false).holds place = true ↔ place.after = [] ∨ place.after = ['\n'] := by
  simp [Anchor.holds]

theorem matchAt_endPattern_eq_none {nonempty : Bool} {place : Place}
    (other : ¬ word <+: place.after) : (endPattern word).matchAt nonempty place = none := by
  rw [Pattern.matchAt, nodes_endPattern, runSequence_literals_eq_fail other]
  rfl

/-- Behind a word it matters whether the text ends there, or only a line feed follows. -/
theorem matchAt_endPattern_append (filled : word ≠ []) (nonempty : Bool) (offset : Nat)
    (before rest : List Char) :
    (endPattern word).matchAt nonempty ⟨offset, before, word ++ rest⟩ =
      if rest = [] ∨ rest = ['\n'] then
        some ⟨offset, ⟨offset + word.length, word.reverse ++ before, rest⟩, []⟩
      else none := by
  -- a word has characters, so that the match is never refused as an empty one
  have moved : (offset + word.length == offset) = false := by
    simpa using filled
  rw [Pattern.matchAt, nodes_endPattern, runSequence_literals, runSequence, Node.run]
  by_cases ends : rest = [] ∨ rest = ['\n']
  · rw [if_pos ends, if_pos (holds_lineEnd_iff.mpr ends)]
    simp only [runSequence, moved, Bool.and_false, Bool.false_eq_true, if_false]
    rfl
  · rw [if_neg ends, if_neg fun holds => ends (holds_lineEnd_iff.mp holds)]
    rfl

theorem isSome_matchAt_endPattern (filled : word ≠ []) {nonempty : Bool} {place : Place} :
    ((endPattern word).matchAt nonempty place).isSome = true ↔
      word = place.after ∨ word ++ ['\n'] = place.after := by
  obtain ⟨offset, before, after⟩ := place
  by_cases found : word <+: after
  · obtain ⟨rest, rfl⟩ := found
    rw [matchAt_endPattern_append filled, List.self_eq_append_right, List.append_cancel_left_eq,
      eq_comm (a := ['\n'])]
    split <;> simp_all
  · rw [matchAt_endPattern_eq_none found]
    refine iff_of_false Bool.noConfusion ?_
    rintro (rfl | rfl)
    · exact found List.prefix_rfl
    · exact found (List.prefix_append _ _)

theorem bounds_of_matchAt_endPattern (filled : word ≠ []) {nonempty : Bool} {place : Place}
    {found : Found} (matched : (endPattern word).matchAt nonempty place = some found) :
    found.bounds = [] := by
  obtain ⟨offset, before, after⟩ := place
  by_cases begins : word <+: after
  · obtain ⟨rest, rfl⟩ := begins
    rw [matchAt_endPattern_append filled] at matched
    split at matched
    · cases matched
      rfl
    · cases matched
  · rw [matchAt_endPattern_eq_none begins] at matched
    cases matched

theorem first_endPattern : (endPattern word).first = none := by
  cases word <;> rfl

theorem untried_endPattern : (endPattern word).untried = 0 := by
  cases word <;> rfl

/-- A search finds an end wherever one stands behind its place. -/
theorem searchFrom_endPattern (filled : word ≠ []) (nonempty : Bool) (offset : Nat)
    (before after : List Char) :
    ((endPattern word).searchFrom (after.length + 1) nonempty
        ⟨offset, before, after⟩).isSome = true ↔
      word <:+ after ∨ word ++ ['\n'] <:+ after := by
  induction after generalizing nonempty offset before with
  | nil =>
      rw [searchFrom_succ first_endPattern, Option.isSome_or, Bool.or_eq_true,
        isSome_matchAt_endPattern filled]
      simp [Place.next?]
  | cons c rest ih =>
      rw [searchFrom_succ first_endPattern, Option.isSome_or, Bool.or_eq_true,
        isSome_matchAt_endPattern filled, List.suffix_cons_iff, List.suffix_cons_iff,
        or_or_or_comm]
      exact or_congr_right (ih false (offset + 1) (c :: before))

theorem isSome_search_endPattern (filled : word ≠ []) (text : List Char) :
    ((endPattern word).search false (.start text)).isSome = true ↔
      word <:+ text ∨ word ++ ['\n'] <:+ text := by
  unfold Pattern.search
  rw [least_endPattern, untried_endPattern]
  split
  · rename_i shorter
    have tooShort : ¬ word.length ≤ text.length := Nat.not_le.mpr shorter
    refine iff_of_false Bool.noConfusion ?_
    rintro (ends | ends)
    · exact tooShort ends.length_le
    · have length := ends.length_le
      rw [List.length_append] at length
      exact tooShort (Nat.le_of_add_right_le length)
  · exact searchFrom_endPattern filled false 0 [] text

/-! ## Patterns that capture nothing -/

section

variable {pattern : Pattern} (uncaptured : ∀ nonempty place found,
  pattern.matchAt nonempty place = some found → found.bounds = [])

include uncaptured

theorem exists_spansFrom {text : List Char} {place : Place} (inside : place.IsIn text)
    (fuel : Nat) (nonempty : Bool) :
    ∃ spans, pattern.spansFrom fuel nonempty place = .ok spans := by
  induction fuel generalizing nonempty place with
  | zero => exact ⟨[], rfl⟩
  | succ fuel ih =>
      rw [Pattern.spansFrom]
      cases searched : pattern.search nonempty place with
      | none => exact ⟨[], rfl⟩
      | some found =>
          obtain ⟨_, _, within, matched⟩ := exists_matchAt_of_search inside searched
          have sound : found.bounds.areCrossed = false := by
            rw [uncaptured _ _ _ matched]
            rfl
          obtain ⟨spans, later⟩ :=
            ih (isIn_of_matchAt within matched).2 (found.start == found.stop.offset)
          simp only [sound, Bool.false_eq_true, if_false, later]
          exact ⟨_, rfl⟩

end

/-- A pattern is found in a text exactly if a search from the start finds it. -/
theorem spans_ne_nil_iff {pattern : Pattern} {text : List Char} {spans : List (Nat × Nat)}
    (ran : pattern.spans text = .ok spans) :
    spans ≠ [] ↔ (pattern.search false (.start text)).isSome = true := by
  rw [Pattern.spans, Pattern.spansFrom] at ran
  cases searched : pattern.search false (.start text) with
  | none =>
      rw [searched] at ran
      cases ran
      exact iff_of_false (fun filled => filled rfl) Bool.noConfusion
  | some found =>
      rw [searched] at ran
      refine iff_of_true ?_ rfl
      rintro rfl
      dsimp only at ran
      split at ran
      · cases ran
      · cases later : pattern.spansFrom (2 * text.length + 1) (found.start == found.stop.offset)
            found.stop with
        | error crossed =>
            rw [later] at ran
            cases ran
        | ok rest =>
            rw [later] at ran
            cases ran

/-- An end is found in a text that ends with the word, and in one that ends with the word and a line
feed. -/
theorem exists_spans_endPattern (filled : word ≠ []) (text : List Char) :
    ∃ spans, (endPattern word).spans text = .ok spans ∧
      (spans ≠ [] ↔ word <:+ text ∨ word ++ ['\n'] <:+ text) := by
  obtain ⟨spans, ran⟩ := exists_spansFrom (fun _ _ _ => bounds_of_matchAt_endPattern filled)
    (.start text) (2 * text.length + 2) false
  exact ⟨spans, ran, (spans_ne_nil_iff ran).trans (isSome_search_endPattern filled text)⟩

end Regex

namespace Search

/-! ## Rows -/

/-- The matcher of the search that a single filter row asks for. -/
def FilterRow.IsSearchedBy (row : FilterRow) (settings : Settings) (m : Match.Matcher) : Prop :=
  ∃ request mode, FilterRow.toRequest? [row] = some request ∧
    (request.fill settings).mode = .text mode ∧
    Match.Matcher.prepare mode (request.fill settings).query (request.fill settings).caseSensitive
      (request.fill settings).threshold = .ok m

variable {field : RowField} {value : String}

/-- A row with a value that looks in texts asks for a search by its text query. -/
theorem FilterRow.isSearchedBy {row : FilterRow} {query : String} {mode : Match.TextMode}
    {m : Match.Matcher} (textual : row.field ∈ [.any, .key, .value, .path])
    (asks : row.operator ≠ .jsonPath) (filled : row.value ≠ "")
    (queries : row.textQuery = (query, mode)) (settings : Settings)
    (prepared : Match.Matcher.prepare mode query row.caseSensitive settings.fuzzyThreshold =
      .ok m) : row.IsSearchedBy settings m := by
  have text : ¬ (row.field = .jsonPath ∨ row.operator = .jsonPath) := by
    rintro (path | path)
    · rw [path] at textual
      contradiction
    · exact asks path
  have primary : row.isPrimary = true := by
    have kind : row.field ≠ .kind := by
      rintro kind
      rw [kind] at textual
      contradiction
    simp [FilterRow.isPrimary, FilterRow.isFilled, filled, kind]
  have decides : [row].find? FilterRow.isPrimary = some row := by
    rw [List.find?_singleton, if_pos primary]
  have asked : ∃ request, toRequest? [row] = some request := by
    rw [toRequest?, decides]
    exact ⟨_, rfl⟩
  obtain ⟨request, asked⟩ := asked
  have read := asked
  rw [toRequest?, decides, Option.map_some, if_neg text, queries] at read
  obtain rfl := Option.some.inj read
  exact ⟨_, mode, asked, rfl, prepared⟩

theorem matched_outcomeOfMatches (spans : List (Nat × Nat)) :
    (Match.Matcher.outcomeOfMatches spans).matched = true ↔ spans ≠ [] := by
  cases spans with
  | nil => decide
  | cons span spans => exact iff_of_true rfl (List.cons_ne_nil _ _)

theorem run_of_spans {pattern : Regex.Pattern} {text : List Char} {spans : List (Nat × Nat)}
    (ran : pattern.spans text = .ok spans) :
    (Match.Matcher.regex (some pattern)).run text = .ok (Match.Matcher.outcomeOfMatches spans) := by
  simp only [Match.Matcher.run, ran]

theorem prepare_of_read {text : List Char} {pattern : Regex.Pattern}
    (read : Regex.Pattern.read false (String.ofList text) = .ok pattern) (threshold : Binary64) :
    Match.Matcher.prepare .regex (String.ofList text) true threshold =
      .ok (.regex (some pattern)) := by
  rw [prepare_regex, Bool.not_true, read]

/-- A row that looks for a beginning finds exactly the texts that begin with its value, whatever
characters that holds, and shows it at their start and nowhere else. -/
theorem startsWith_row_finds_beginnings (textual : field ∈ [.any, .key, .value, .path])
    (filled : value ≠ "") (settings : Settings) :
    ∃ m, FilterRow.IsSearchedBy ⟨field, .startsWith, value, true⟩ settings m ∧
      m.mode = .regex ∧ m.isMalformed = false ∧
      ∀ text : String, ∃ outcome, m.run text.toList = .ok outcome ∧
        (outcome.matched = true ↔ value.toList <+: text.toList) ∧
        (outcome.matched = true → outcome.positions = [⟨0, value.length⟩]) := by
  have some_char : value.toList ≠ [] := by simpa using filled
  have prepared := prepare_of_read (Regex.read_startPattern value.toList) settings.fuzzyThreshold
  refine ⟨_, FilterRow.isSearchedBy textual RowOperator.noConfusion filled rfl settings prepared,
    rfl, rfl, fun text => ?_⟩
  by_cases begins : value.toList <+: text.toList
  · obtain ⟨rest, split⟩ := begins
    have ran := Regex.spans_startPattern_append some_char rest
    rw [split, String.length_toList] at ran
    refine ⟨_, run_of_spans ran, iff_of_true rfl ⟨rest, split⟩, fun _ => ?_⟩
    have wide : 0 < value.length := String.length_toList ▸ List.length_pos_iff.mpr some_char
    simp [Match.Matcher.outcomeOfMatches, wide]
  · exact ⟨_, run_of_spans (Regex.spans_startPattern_eq_nil begins),
      iff_of_false Bool.noConfusion begins, Bool.noConfusion⟩

/-- A value with a dot, a line feed and a parenthesis at the beginning of a text. -/
theorem startsWith_row_finds_awkward_beginning :
    RowField.key ∈ [.any, .key, .value, .path] ∧ "a.b\n(" ≠ "" ∧
      ∃ m, FilterRow.IsSearchedBy ⟨.key, .startsWith, "a.b\n(", true⟩ .default m ∧
        (∃ outcome, m.run "a.b\n(a.b\n(".toList = .ok outcome ∧ outcome.positions = [⟨0, 5⟩]) ∧
        ∃ outcome, m.run "axb\n(".toList = .ok outcome ∧ outcome.matched = false := by
  have textual : RowField.key ∈ [.any, .key, .value, .path] := by decide
  have filled : "a.b\n(" ≠ "" := by decide
  obtain ⟨m, searched, -, -, finds⟩ := startsWith_row_finds_beginnings textual filled .default
  obtain ⟨found, ran, begins, shown⟩ := finds "a.b\n(a.b\n("
  obtain ⟨other, ran', begins', -⟩ := finds "axb\n("
  refine ⟨textual, filled, m, searched, ⟨found, ran, shown (begins.mpr (by decide))⟩,
    other, ran', ?_⟩
  exact Bool.eq_false_iff.mpr fun matched => absurd (begins'.mp matched) (by decide)

/-- A row that looks for an end finds the texts that end with its value, and besides them those that
end with its value and a line feed. -/
theorem endsWith_row_finds_ends (textual : field ∈ [.any, .key, .value, .path])
    (filled : value ≠ "") (settings : Settings) :
    ∃ m, FilterRow.IsSearchedBy ⟨field, .endsWith, value, true⟩ settings m ∧
      m.mode = .regex ∧ m.isMalformed = false ∧
      ∀ text : String, ∃ outcome, m.run text.toList = .ok outcome ∧
        (outcome.matched = true ↔
          value.toList <:+ text.toList ∨ value.toList ++ ['\n'] <:+ text.toList) := by
  have some_char : value.toList ≠ [] := by simpa using filled
  have prepared := prepare_of_read (Regex.read_endPattern value.toList) settings.fuzzyThreshold
  refine ⟨_, FilterRow.isSearchedBy textual RowOperator.noConfusion filled rfl settings prepared,
    rfl, rfl, fun text => ?_⟩
  obtain ⟨spans, ran, found⟩ := Regex.exists_spans_endPattern some_char text.toList
  exact ⟨_, run_of_spans ran, (matched_outcomeOfMatches spans).trans found⟩

/-- A value with a dollar sign at the end of a text, in front of a last line feed, and inside. -/
theorem endsWith_row_finds_awkward_ends :
    RowField.value ∈ [.any, .key, .value, .path] ∧ "5$" ≠ "" ∧
      ∃ m, FilterRow.IsSearchedBy ⟨.value, .endsWith, "5$", true⟩ .default m ∧
        (∃ outcome, m.run "15$".toList = .ok outcome ∧ outcome.matched = true) ∧
        (∃ outcome, m.run "15$\n".toList = .ok outcome ∧ outcome.matched = true) ∧
        ∃ outcome, m.run "5$\n\n".toList = .ok outcome ∧ outcome.matched = false := by
  have textual : RowField.value ∈ [.any, .key, .value, .path] := by decide
  have filled : "5$" ≠ "" := by decide
  obtain ⟨m, searched, -, -, finds⟩ := endsWith_row_finds_ends textual filled .default
  obtain ⟨whole, ran, ends⟩ := finds "15$"
  obtain ⟨line, ran', ends'⟩ := finds "15$\n"
  obtain ⟨inner, ran'', ends''⟩ := finds "5$\n\n"
  refine ⟨textual, filled, m, searched, ⟨whole, ran, ends.mpr (by decide)⟩,
    ⟨line, ran', ends'.mpr (by decide)⟩, inner, ran'', ?_⟩
  exact Bool.eq_false_iff.mpr fun matched => absurd (ends''.mp matched) (by decide)

/-- A text is found although it does not end with the value but with a line feed. -/
theorem endsWith_row_overlooks_line_feed :
    ∃ m, FilterRow.IsSearchedBy ⟨.any, .endsWith, "a", true⟩ .default m ∧
      ∃ outcome, m.run "a\n".toList = .ok outcome ∧ outcome.matched = true ∧
        ¬ "a".toList <:+ "a\n".toList := by
  have prepared :=
    prepare_of_read (Regex.read_endPattern "a".toList) Settings.default.fuzzyThreshold
  have ran : (Regex.endPattern "a".toList).spans "a\n".toList = .ok [(0, 1)] := by decide +kernel
  exact ⟨_, FilterRow.isSearchedBy (by decide) RowOperator.noConfusion (by decide) rfl .default
    prepared, _, run_of_spans ran, rfl, by decide⟩

end Search

end JsonSeek
