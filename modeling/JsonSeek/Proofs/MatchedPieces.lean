import JsonSeek.Proofs.LoweredText
import JsonSeek.Proofs.MarkedRuns

/-!
# What positions show

The positions of a match are those in the text with its case removed. There they always fit: they
lie inside the text, one behind the other, and show the query or its characters. Whether they fit
the text that was searched as well is a matter of its lower case (`positions_fit_iff`): no character
may become longer, which would shift what follows, and no capital sigma may change its form when it
is lowered together with a piece of the text only.
-/

namespace JsonSeek.Match

/-! ## Fitting spans -/

/-- What the n-th span of a match has to show: the query, or its n-th character. -/
def Matcher.sought : Matcher → Nat → Option (List Char)
  | .simple _ query, _ => some query
  | .fuzzy _ query _, n => query[n]?.map fun c => [c]
  | .regex _, _ => none

/-- Spans that fit a text: they lie inside it, one behind the other, and each of them shows what it
has to show, once the case of the piece is removed. -/
structure Fits (m : Matcher) (fold : List Char → List Char) (text : List Char)
    (spans : List Span) : Prop where
  inside : ∀ span ∈ spans, 0 ≤ span.start ∧ span.start < span.stop ∧ span.stop ≤ text.length
  apart : spans.Pairwise fun a b => a.stop ≤ b.start
  shown : ∀ (n : Nat) (span : Span), spans[n]? = some span →
    m.sought n = some (fold (cut text span.start span.stop))

theorem Matcher.length_of_sought {m : Matcher} {n : Nat} {piece : List Char}
    (fuzzy : m.mode = .fuzzy) (sought : m.sought n = some piece) : piece.length = 1 := by
  cases m with
  | fuzzy caseSensitive query threshold =>
      obtain ⟨c, -, rfl⟩ := Option.map_eq_some_iff.mp sought
      rfl
  | simple => cases fuzzy
  | regex => cases fuzzy

theorem Fits.nil (m : Matcher) (fold : List Char → List Char) (text : List Char) :
    Fits m fold text [] where
  inside := List.forall_mem_nil _
  apart := List.Pairwise.nil
  shown _ _ reported := by cases reported

theorem exists_natCast_of_span {span : Span} (start : 0 ≤ span.start)
    (forward : span.start ≤ span.stop) :
    ∃ first size : Nat, span = ⟨first, (first + size : Nat)⟩ := by
  obtain ⟨first, stop⟩ := span
  obtain ⟨first, rfl⟩ := Int.eq_ofNat_of_zero_le start
  obtain ⟨stop, rfl⟩ := Int.eq_ofNat_of_zero_le (Int.le_trans start forward)
  obtain ⟨size, rfl⟩ := Nat.exists_eq_add_of_le (Int.ofNat_le.mp forward)
  exact ⟨first, size, rfl⟩

/-! ## Positions in the text without its case -/

section

variable (caseSensitive : Bool) (query text : List Char) (threshold : Binary64)

theorem fits_occurrences : Fits (.simple caseSensitive query) id text (occurrences query text) where
  inside := by
    intro span inside
    obtain ⟨nonempty, i, short, -, rfl⟩ := exists_of_mem_occurrences inside
    have size := List.length_pos_iff.mpr nonempty
    refine ⟨Int.natCast_nonneg i, Int.ofNat_lt.mpr ?_, Int.ofNat_le.mpr short⟩
    exact Nat.lt_add_of_pos_right size
  apart := pairwise_occurrences query text
  shown := by
    intro n span reported
    obtain ⟨-, i, short, occurs, rfl⟩ :=
      exists_of_mem_occurrences (List.mem_of_getElem? reported)
    rw [cut_natCast short]
    exact congrArg some (List.prefix_iff_eq_take.mp occurs)

theorem fits_taken :
    Fits (.fuzzy caseSensitive query threshold) id text
      ((taken text query).map fun (i : Nat) => ⟨i, i + 1⟩) where
  inside := by
    intro span inside
    obtain ⟨i, taken, rfl⟩ := List.mem_map.mp inside
    obtain ⟨n, reported⟩ := List.mem_iff_getElem?.mp taken
    obtain ⟨k, rfl, short, -⟩ := exists_of_getElem?_takenFrom reported
    dsimp only
    omega
  apart := by
    refine List.pairwise_map.mpr ((pairwise_takenFrom 0 text query).imp fun {i j} before => ?_)
    dsimp only
    omega
  shown := by
    intro n span reported
    rw [List.getElem?_map, Option.map_eq_some_iff] at reported
    obtain ⟨i, taken, rfl⟩ := reported
    obtain ⟨k, rfl, short, same⟩ := exists_of_getElem?_takenFrom taken
    have found : query[n]? = some text[k] := same.symm.trans (List.getElem?_eq_getElem short)
    have piece : cut text k (k + 1 : Nat) = [text[k]] := by
      rw [cut_natCast short, List.drop_eq_getElem_cons short, List.take_succ_cons, List.take_zero]
    rw [Matcher.sought, found, Nat.zero_add]
    exact congrArg some piece.symm

theorem positions_runFuzzy_zero {query : List Char} (nonempty : query ≠ []) :
    (Matcher.runFuzzy caseSensitive query .zero text).positions =
      (taken (normalize caseSensitive text) query).map fun (i : Nat) => ⟨i, i + 1⟩ := by
  rw [Matcher.runFuzzy, if_pos (fuzzyMatches_zero nonempty _)]

theorem fits_runFuzzy : Fits (.fuzzy caseSensitive query threshold) id
    (normalize caseSensitive text)
      (Matcher.runFuzzy caseSensitive query threshold text).positions := by
  simp only [Matcher.runFuzzy]
  split
  · exact fits_taken caseSensitive query _ threshold
  · exact Fits.nil _ _ _

end

/-- A literal query always has an outcome, and its positions fit the text without its case. -/
theorem exists_fitting_outcome {mode : TextMode} (literal : mode ≠ .regex) (query : String)
    (caseSensitive : Bool) (threshold : Binary64) (text : List Char) :
    ∃ m outcome, m.mode = mode ∧
      Matcher.prepare mode query caseSensitive threshold = .ok m ∧ m.run text = .ok outcome ∧
      Fits m id (normalize caseSensitive text) outcome.positions := by
  cases mode with
  | simple =>
      refine ⟨_, _, rfl, rfl, rfl, ?_⟩
      rw [positions_runSimple]
      exact fits_occurrences _ _ _
  | fuzzy => exact ⟨_, _, rfl, rfl, rfl, fits_runFuzzy _ _ _ _⟩
  | regex => exact absurd rfl literal

/-! ## Marking -/

theorem Matcher.positions_of_not_matched {m : Matcher} {text : List Char} {outcome : Outcome}
    (ran : m.run text = .ok outcome) (unmatched : outcome.matched = false) :
    outcome.positions = [] := by
  cases m with
  | simple caseSensitive query =>
      cases ran
      simp only [runSimple] at unmatched ⊢
      split at unmatched
      · cases unmatched
      · rename_i absent
        exact congrArg Outcome.positions (if_neg absent)
  | fuzzy caseSensitive query threshold =>
      cases ran
      simp only [runFuzzy] at unmatched ⊢
      split at unmatched
      · cases unmatched
      · rename_i absent
        exact congrArg Outcome.positions (if_neg absent)
  | regex pattern =>
      cases pattern with
      | none =>
          cases ran
          rfl
      | some pattern =>
          simp only [run] at ran
          split at ran
          · cases ran
            unfold outcomeOfMatches at unmatched ⊢
            split at unmatched
            · rename_i nothing
              exact congrArg Outcome.positions (if_pos nothing)
            · cases unmatched
          · cases ran

/-- Positions that lie within a text are all that is marked in it. -/
theorem highlight_eq_enclosed {m : Matcher} {text : String} {outcome : Outcome}
    (ran : m.run text.toList = .ok outcome)
    (bounds : ∀ span ∈ outcome.positions, 0 ≤ span.start ∧ span.stop ≤ text.toList.length)
    (opening closing : String) :
    m.highlight text opening closing = .ok (enclosed text opening closing outcome.positions) := by
  have whole := wrapSpans_eq_enclosed opening closing bounds
  rw [Matcher.highlight, ran]
  refine congrArg Except.ok ?_
  unfold Matcher.markedBy
  split
  · exact whole
  · rename_i shows
    have nothing : outcome.positions = [] := by
      cases matched : outcome.matched with
      | false => exact Matcher.positions_of_not_matched ran matched
      | true => simpa [matched] using shows
    rw [nothing, enclosed_nil]

/-! ## Lower case piece by piece -/

/-- A text whose pieces can be lowered one by one: no character becomes longer, and no capital sigma
stands behind a character with case, where it may be the end of a word. Subsequence search shows
single characters, so that a sigma inside a word does no harm there. -/
def IsAligned (mode : TextMode) (text : List Char) : Prop :=
  'İ' ∉ text ∧ ∀ first rest, text = first ++ 'Σ' :: rest →
    Text.startsCased first.reverse = true → mode = .fuzzy ∧ Text.startsCased rest = true

/-- A text without the two letters in question is aligned. -/
theorem isAligned_of_notMem {mode : TextMode} {text : List Char} (undotted : 'İ' ∉ text)
    (sigmas : 'Σ' ∉ text) : IsAligned mode text := by
  refine ⟨undotted, fun first rest split _ => absurd ?_ sigmas⟩
  rw [split]
  exact List.mem_append_right first List.mem_cons_self

theorem lower_cut_of_isAligned {mode : TextMode} {text : List Char} (aligned : IsAligned mode text)
    {first size : Nat} (short : first + size ≤ text.length) (single : mode = .fuzzy → size = 1) :
    Text.lower (cut text first (first + size : Nat)) =
      cut (Text.lower text) first (first + size : Nat) := by
  obtain ⟨undotted, sigmas⟩ := aligned
  obtain ⟨before, piece, behind, rfl, rfl, rfl, found⟩ := exists_of_cut short
  have size : before.length + piece.length ≤ (Text.lower (before ++ (piece ++ behind))).length := by
    rw [Text.length_lower]
    omega
  rw [← List.append_assoc, List.mem_append, not_or] at undotted
  rw [found, cut_natCast size, Text.take_drop_lower undotted.1, Text.lower_eq_lowerBetween]
  refine Text.lowerBetween_congr fun f r split => ?_
  subst split
  have inPlace := sigmas (before ++ f) (r ++ behind) (by simp)
  rw [List.reverse_append] at inPlace
  rw [Text.lowerChar_sigma_of_not_final fun cased => (inPlace cased).2,
    Text.lowerChar_sigma_of_not_final]
  rw [List.append_nil]
  intro cased
  have one := single (inPlace (Text.startsCased_append_of_left cased _)).1
  have nothing : f = [] := by
    cases f with
    | nil => rfl
    | cons c f => simp at one
  rw [nothing] at cased
  cases cased

/-- Positions that fit the lowered text of an aligned text fit the text itself. -/
theorem Fits.of_lower {m : Matcher} {text : List Char} {spans : List Span}
    (fits : Fits m id (Text.lower text) spans) (aligned : IsAligned m.mode text) :
    Fits m Text.lower text spans := by
  have same : (Text.lower text).length = text.length := by
    rw [Text.length_lower, List.count_eq_zero.mpr aligned.1, Nat.add_zero]
  refine ⟨fun span inside => same ▸ fits.inside span inside, fits.apart, fun n span reported => ?_⟩
  obtain ⟨start, forward, short⟩ := fits.inside span (List.mem_of_getElem? reported)
  obtain ⟨first, size, rfl⟩ := exists_natCast_of_span start (Int.le_of_lt forward)
  have shown := fits.shown n _ reported
  have fitting : first + size ≤ text.length := by
    rw [← same]
    exact Int.ofNat_le.mp short
  have single : m.mode = .fuzzy → size = 1 := by
    intro fuzzy
    have one := Matcher.length_of_sought fuzzy shown
    rw [id, cut_natCast (same.symm ▸ fitting), List.length_take, List.length_drop] at one
    omega
  rw [lower_cut_of_isAligned aligned fitting single]
  exact shown

/-! ## Texts that are not aligned -/

/-- Whether the positions of every query fit a text. -/
def AllFit (mode : TextMode) (caseSensitive : Bool) (text : String) : Prop :=
  ∀ query threshold m outcome, Matcher.prepare mode query caseSensitive threshold = .ok m →
    m.run text.toList = .ok outcome →
      Fits m (normalize caseSensitive) text.toList outcome.positions

section

variable {mode : TextMode} {text : String}

theorem AllFit.simple (fits : AllFit .simple false text) (query : String) :
    Fits (.simple false (Text.lower query.toList)) Text.lower text.toList
      (occurrences (Text.lower query.toList) (Text.lower text.toList)) := by
  have positions := positions_runSimple false (Text.lower query.toList) text.toList
  exact positions ▸ fits query .zero _ _ rfl rfl

/-- An occurrence at the beginning is reported, and so is one of a single character, since nothing
overlaps it. The piece that it shows is the query. -/
theorem AllFit.lower_cut (fits : AllFit .simple false text) {query : String} {needle : List Char}
    (lowered : Text.lower query.toList = needle) (nonempty : needle ≠ []) {i : Nat}
    (occurs : needle <+: (Text.lower text.toList).drop i) (first : i = 0 ∨ needle.length = 1) :
    Text.lower (cut text.toList i (i + needle.length : Nat)) = needle := by
  subst lowered
  obtain ⟨span, inside, start, stop⟩ := exists_mem_occurrences nonempty occurs
  obtain ⟨n, reported⟩ := List.mem_iff_getElem?.mp inside
  obtain ⟨-, k, -, -, rfl⟩ := exists_of_mem_occurrences inside
  have place : k = i := by
    dsimp only at start stop
    rcases first with zero | single
    · omega
    · omega
  subst place
  exact (Option.some.inj ((fits.simple query).shown n _ reported)).symm

/-- A text takes all of itself, one character after the other. -/
theorem AllFit.fuzzy (fits : AllFit .fuzzy false text) (nonempty : Text.lower text.toList ≠ []) :
    Fits (.fuzzy false (Text.lower text.toList) .zero) Text.lower text.toList
      ((List.range (Text.lower text.toList).length).map fun (i : Nat) => ⟨i, i + 1⟩) := by
  have positions := positions_runFuzzy_zero false text.toList nonempty
  have all : taken (Text.lower text.toList) (Text.lower text.toList) =
      List.range (Text.lower text.toList).length := by
    rw [taken, takenFrom_self, List.range_eq_range']
  rw [← all]
  exact positions ▸ fits text .zero _ _ rfl rfl

/-- A text that becomes longer is found beyond its own end. -/
theorem AllFit.undotted (literal : mode ≠ .regex) (fits : AllFit mode false text) :
    'İ' ∉ text.toList := by
  intro dotted
  have longer : text.toList.length < (Text.lower text.toList).length := by
    have dots := List.count_pos_iff.mpr dotted
    rw [Text.length_lower]
    omega
  have nonempty : Text.lower text.toList ≠ [] := by
    apply List.length_pos_iff.mp
    omega
  cases mode with
  | simple =>
      obtain ⟨span, inside, -, behind⟩ :=
        exists_mem_occurrences nonempty (List.prefix_refl ((Text.lower text.toList).drop 0))
      obtain ⟨-, i, short, -, rfl⟩ := exists_of_mem_occurrences inside
      obtain ⟨-, -, within⟩ := (fits.simple text).inside _ inside
      dsimp only at within
      omega
  | fuzzy =>
      obtain ⟨last, size⟩ := Nat.exists_eq_add_of_lt (Nat.lt_of_le_of_lt (Nat.zero_le _) longer)
      have inside : last ∈ List.range (Text.lower text.toList).length := by
        rw [List.mem_range]
        omega
      obtain ⟨-, -, within⟩ := (fits.fuzzy nonempty).inside _ (List.mem_map.mpr ⟨last, inside, rfl⟩)
      dsimp only at within
      omega
  | regex => exact absurd rfl literal

/-- A sigma that is lowered alone is not at the end of a word. -/
theorem lower_cut_sigma (first rest : List Char) :
    Text.lower (cut (first ++ 'Σ' :: rest) first.length (first.length + 1 : Nat)) = ['σ'] :=
  congrArg Text.lower (cut_append first ['Σ'] rest)

section

variable {first rest : List Char} (split : text.toList = first ++ 'Σ' :: rest)
  (undotted : 'İ' ∉ first) (cased : Text.startsCased first.reverse = true)
include split undotted cased

/-- A final sigma is found, but shows one that is not final. -/
theorem not_allFit_simple_of_final (last : Text.startsCased rest = false) :
    ¬ AllFit .simple false text := by
  intro fits
  have lowered : Text.lower "ς".toList = ['ς'] := Text.lower_final_sigma
  have occurs : ['ς'] <+: (Text.lower text.toList).drop first.length := by
    rw [split, ← Text.lowerChar_sigma_of_final cased last]
    exact Text.lowerChar_prefix_drop_lower undotted rest
  have shown := fits.lower_cut lowered (List.cons_ne_nil _ _) occurs (.inr rfl)
  rw [split] at shown
  cases (lower_cut_sigma first rest).symm.trans shown

/-- The beginning of a text up to a sigma inside a word is found, but shows a final sigma. -/
theorem not_allFit_simple_of_inside (inside : Text.startsCased rest = true) :
    ¬ AllFit .simple false text := by
  intro fits
  have lowered : Text.lower (String.ofList (first ++ ['σ'])).toList =
      Text.lowerBetween [] ['Σ'] first ++ ['σ'] := by
    rw [String.toList_ofList, Text.lower_append_small_sigma]
  have occurs : Text.lowerBetween [] ['Σ'] first ++ ['σ'] <+: (Text.lower text.toList).drop 0 := by
    rw [List.drop_zero, split, Text.lower_append_sigma,
      Text.lowerChar_sigma_of_not_final fun _ => inside, ← List.append_assoc]
    exact List.prefix_append _ _
  have size : (Text.lowerBetween [] ['Σ'] first ++ ['σ']).length = (first ++ ['Σ']).length := by
    rw [List.length_append, Text.length_lowerBetween_of_undotted undotted, List.length_append]
    rfl
  have piece : cut text.toList (0 : Nat) (0 + (first ++ ['Σ']).length : Nat) = first ++ ['Σ'] := by
    rw [split, show first ++ 'Σ' :: rest = [] ++ (first ++ ['Σ'] ++ rest) by simp]
    exact cut_append [] (first ++ ['Σ']) rest
  -- Cut off behind the sigma, the text ends a word there.
  have shown := fits.lower_cut lowered (by simp) occurs (.inl rfl)
  rw [size, piece, Text.lower_append_sigma, Text.lowerChar_sigma_of_final cased rfl] at shown
  cases List.append_cancel_left shown

/-- The final sigma of a text that takes all of itself shows one that is not final. -/
theorem not_allFit_fuzzy_of_final (last : Text.startsCased rest = false) :
    ¬ AllFit .fuzzy false text := by
  intro fits
  have final : (Text.lower text.toList)[first.length]? = some 'ς' := by
    obtain ⟨behind, found⟩ := Text.lowerChar_prefix_drop_lower undotted rest
    rw [Text.lowerChar_sigma_of_final cased last] at found
    rw [split, ← Nat.add_zero first.length, ← List.getElem?_drop, ← found]
    rfl
  have nonempty : Text.lower text.toList ≠ [] := by
    intro empty
    rw [empty] at final
    cases final
  have reported : ((List.range (Text.lower text.toList).length).map
      fun (i : Nat) => (⟨i, i + 1⟩ : Span))[first.length]? =
        some ⟨first.length, first.length + 1⟩ := by
    have short := (List.getElem?_eq_some_iff.mp final).1
    rw [List.getElem?_map, List.getElem?_range short]
    rfl
  have shown := (fits.fuzzy nonempty).shown _ _ reported
  rw [Matcher.sought, final, split] at shown
  cases Option.some.inj (shown.trans (congrArg some (lower_cut_sigma first rest)))

end

/-- If the positions of every query fit a text, its pieces can be lowered one by one. -/
theorem AllFit.isAligned (literal : mode ≠ .regex) (fits : AllFit mode false text) :
    IsAligned mode text.toList := by
  have undotted := fits.undotted literal
  refine ⟨undotted, fun first rest split cased => ?_⟩
  rw [split, List.mem_append, not_or] at undotted
  cases behind : Text.startsCased rest with
  | true =>
      refine ⟨?_, rfl⟩
      cases mode with
      | simple => exact absurd fits (not_allFit_simple_of_inside split undotted.1 cased behind)
      | fuzzy => rfl
      | regex => exact absurd rfl literal
  | false =>
      cases mode with
      | simple => exact absurd fits (not_allFit_simple_of_final split undotted.1 cased behind)
      | fuzzy => exact absurd fits (not_allFit_fuzzy_of_final split undotted.1 cased behind)
      | regex => exact absurd rfl literal

end

/-! ## Positions in the text that was searched -/

theorem allFit_iff {mode : TextMode} (literal : mode ≠ .regex) (caseSensitive : Bool)
    (text : String) :
    AllFit mode caseSensitive text ↔ caseSensitive = true ∨ IsAligned mode text.toList := by
  constructor
  · intro fits
    cases caseSensitive with
    | true => exact .inl rfl
    | false => exact .inr (fits.isAligned literal)
  · intro condition query threshold m outcome prepared ran
    obtain ⟨m', outcome', rfl, prepared', ran', fits⟩ :=
      exists_fitting_outcome literal query caseSensitive threshold text.toList
    cases prepared.symm.trans prepared'
    cases ran.symm.trans ran'
    cases caseSensitive with
    | true => exact fits
    | false =>
        rcases condition with impossible | aligned
        · cases impossible
        · exact fits.of_lower aligned

/-- A literal query always has an outcome, whose positions fit the text without its case. They fit
the text itself for all queries exactly if case counts or the pieces of the text can be lowered one
by one. As long as no character becomes longer, exactly the characters at these positions are
marked. -/
theorem positions_fit_iff {mode : TextMode} (literal : mode ≠ .regex) (caseSensitive : Bool)
    (text : String) :
    (∀ query threshold, ∃ m outcome,
      Matcher.prepare mode query caseSensitive threshold = .ok m ∧
      m.run text.toList = .ok outcome ∧
      Fits m id (normalize caseSensitive text.toList) outcome.positions ∧
      (caseSensitive = true ∨ 'İ' ∉ text.toList → ∀ opening closing,
        m.highlight text opening closing =
          .ok (enclosed text opening closing outcome.positions))) ∧
    (AllFit mode caseSensitive text ↔ caseSensitive = true ∨ IsAligned mode text.toList) := by
  refine ⟨fun query threshold => ?_, allFit_iff literal caseSensitive text⟩
  obtain ⟨m, outcome, -, prepared, ran, fits⟩ :=
    exists_fitting_outcome literal query caseSensitive threshold text.toList
  refine ⟨m, outcome, prepared, ran, fits, fun condition => ?_⟩
  have size : (normalize caseSensitive text.toList).length = text.toList.length := by
    cases caseSensitive with
    | true => rfl
    | false =>
        rcases condition with impossible | undotted
        · cases impossible
        · exact (Text.length_lower _).trans (congrArg _ (List.count_eq_zero.mpr undotted))
  refine highlight_eq_enclosed ran fun span inside => ?_
  obtain ⟨start, -, stop⟩ := fits.inside span inside
  exact ⟨start, size ▸ stop⟩

/-- Whole words are found and marked in either case. -/
theorem positions_fit_of_two_words :
    TextMode.simple ≠ .regex ∧ AllFit .simple false "Ab aB" ∧
      ∃ m, Matcher.prepare .simple "AB" false defaultThreshold = .ok m ∧
        m.highlight "Ab aB" "<" ">" = .ok "<Ab> <aB>" := by
  have literal : TextMode.simple ≠ .regex := by decide
  have undotted : 'İ' ∉ "Ab aB".toList := by decide
  obtain ⟨every, all⟩ := positions_fit_iff literal false "Ab aB"
  obtain ⟨m, outcome, prepared, ran, -, marked⟩ := every "AB" defaultThreshold
  refine ⟨literal, all.mpr (.inr (isAligned_of_notMem undotted (by decide))), m, prepared, ?_⟩
  have found : enclosed "Ab aB" "<" ">"
      (Matcher.runSimple false (normalize false "AB".toList) "Ab aB".toList).positions =
        "<Ab> <aB>" := by decide +kernel
  have query : Matcher.simple false (normalize false "AB".toList) = m := Except.ok.inj prepared
  subst query
  have reported : Matcher.runSimple false (normalize false "AB".toList) "Ab aB".toList = outcome :=
    Except.ok.inj ran
  rw [marked (.inr undotted), ← reported, found]

/-- Behind a capital I with a dot, the wrong character is marked. -/
theorem positions_misfit_behind_dotted :
    ∃ m outcome, Matcher.prepare .simple "a" false defaultThreshold = .ok m ∧
      m.run "İab".toList = .ok outcome ∧ outcome.positions = [⟨2, 3⟩] ∧
      m.highlight "İab" "[[" "]]" = .ok "İa[[b]]" ∧
      ¬ Fits m (normalize false) "İab".toList outcome.positions := by
  have marked : Matcher.markedBy "İab" "[[" "]]"
      (Matcher.runSimple false (normalize false "a".toList) "İab".toList) = "İa[[b]]" := by
    decide +kernel
  refine ⟨_, _, rfl, rfl, by decide +kernel, congrArg Except.ok marked, ?_⟩
  intro fits
  have shown := fits.shown 0 ⟨2, 3⟩ (by decide +kernel)
  revert shown
  decide +kernel

end JsonSeek.Match
