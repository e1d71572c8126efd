import Mathlib.Order.Bounds.Basic
import JsonSeek.Proofs.LoweredText
import JsonSeek.Proofs.Occurrences

/-!
# Leftmost occurrences

Substring search goes in rounds. Each round looks for the first occurrence from some place on; if
there is one, it is reported and the next round starts behind it. The rounds come to an end exactly
if the query is not empty, and then they report what a single pass over the text finds. Every
occurrence is either reported or starts inside a reported one, which it overlaps
(`simple_search_is_leftmost`).
-/

namespace JsonSeek.Match

/-! ## Rounds -/

/-- The query stands in the text at the given offset. -/
def OccursAt (query text : List Char) (i : Nat) : Prop := i ≤ text.length ∧ query <+: text.drop i

/-- The span of an occurrence at the given offset. -/
def spanAt (query : List Char) (i : Nat) : Span := ⟨i, (i + query.length : Nat)⟩

/-- The rounds from a place on come to an end and report these spans. -/
inductive RoundsReport (query text : List Char) : (place : Nat) → List Span → Prop
  | finished {place : Nat} (nothing : ∀ i, place ≤ i → ¬ OccursAt query text i) :
      RoundsReport query text place []
  | found {place i : Nat} {spans : List Span}
      (first : IsLeast {i | place ≤ i ∧ OccursAt query text i} i)
      (rest : RoundsReport query text (i + query.length) spans) :
      RoundsReport query text place (spanAt query i :: spans)

section

variable {query text : List Char} {place : Nat} {spans : List Span}

/-- The rounds from a place on have only one end. -/
theorem RoundsReport.unique {others : List Span} (ends : RoundsReport query text place spans)
    (endsToo : RoundsReport query text place others) : spans = others := by
  induction ends generalizing others with
  | finished nothing =>
      cases endsToo with
      | finished => rfl
      | found first => exact absurd first.1.2 (nothing _ first.1.1)
  | found first _ ih =>
      cases endsToo with
      | finished nothing => exact absurd first.1.2 (nothing _ first.1.1)
      | found firstToo restToo =>
          cases first.unique firstToo
          rw [ih restToo]

/-- Without an occurrence at a place, the rounds from there on are those from the next place on. -/
theorem RoundsReport.of_succ (absent : ¬ OccursAt query text place)
    (ends : RoundsReport query text (place + 1) spans) : RoundsReport query text place spans := by
  have later {i : Nat} (behind : place ≤ i) (occurs : OccursAt query text i) : place + 1 ≤ i := by
    apply Nat.lt_of_le_of_ne behind
    rintro rfl
    exact absent occurs
  cases ends with
  | finished nothing =>
      apply RoundsReport.finished
      intro i behind occurs
      exact nothing i (later behind occurs) occurs
  | found first rest =>
      refine .found ⟨⟨Nat.le_of_succ_le first.1.1, first.1.2⟩, ?_⟩ rest
      rintro i ⟨behind, occurs⟩
      exact first.2 ⟨later behind occurs, occurs⟩

/-- An empty query occurs wherever the search stands, which then stays there. -/
theorem not_roundsReport_nil (inside : place ≤ text.length) :
    ¬ RoundsReport [] text place spans := by
  intro ends
  induction ends with
  | finished nothing => exact nothing _ (Nat.le_refl _) ⟨inside, List.nil_prefix⟩
  | found first _ ih => exact ih first.1.2.1

/-- A single pass finds what the rounds report, if the skipped characters are left behind as well.
The part of the text that was passed counts as much as its length. -/
theorem roundsReport_occurrencesFrom (nonempty : query ≠ []) (before rest : List Char)
    (skip : Nat) : RoundsReport query (before ++ rest) (before.length + skip)
      (occurrencesFrom query before.length skip rest) := by
  have size := List.length_pos_iff.mpr nonempty
  induction rest generalizing before skip with
  | nil =>
      apply RoundsReport.finished
      rintro i behind ⟨-, occurs⟩
      have fits := occurs.length_le
      rw [List.append_nil, List.length_drop] at fits
      omega
  | cons c rest ih =>
      have moved : before ++ c :: rest = before ++ [c] ++ rest := by simp
      have next (skip : Nat) : RoundsReport query (before ++ c :: rest) (before.length + 1 + skip)
          (occurrencesFrom query (before.length + 1) skip rest) := by
        have later := ih (before ++ [c]) skip
        rwa [← moved, List.length_append, List.length_singleton] at later
      cases skip with
      | succ skip =>
          have behind := next skip
          rwa [Nat.add_assoc, Nat.add_comm 1 skip] at behind
      | zero =>
          have here : OccursAt query (before ++ c :: rest) before.length ↔
              query.isPrefixOf (c :: rest) = true := by
            rw [List.isPrefixOf_iff_prefix, OccursAt, List.drop_left]
            exact and_iff_right (by simp)
          rw [occurrencesFrom, Nat.add_zero]
          split
          · rename_i occurs
            refine .found ⟨⟨Nat.le_refl _, here.mpr occurs⟩, fun i found => found.1⟩ ?_
            have behind := next (query.length - 1)
            rwa [Nat.add_assoc, Nat.add_sub_cancel' size] at behind
          · rename_i absent
            exact (next 0).of_succ (mt here.mp absent)

/-- The rounds over a whole text come to an end exactly if the query is not empty, and then they
report what the single pass finds. -/
theorem roundsReport_iff :
    RoundsReport query text 0 spans ↔ query ≠ [] ∧ spans = occurrences query text := by
  constructor
  · intro ends
    have nonempty : query ≠ [] := by
      rintro rfl
      exact not_roundsReport_nil (Nat.zero_le _) ends
    have pass := roundsReport_occurrencesFrom nonempty [] text 0
    refine ⟨nonempty, ?_⟩
    rw [occurrences, if_neg (by simpa using nonempty)]
    exact ends.unique pass
  · rintro ⟨nonempty, rfl⟩
    rw [occurrences, if_neg (by simpa using nonempty)]
    exact roundsReport_occurrencesFrom nonempty [] text 0

/-! ## What is reported -/

theorem exists_occursAt_of_mem {span : Span} (reported : span ∈ occurrences query text) :
    ∃ i, OccursAt query text i ∧ span = spanAt query i := by
  obtain ⟨-, i, short, occurs, rfl⟩ := exists_of_mem_occurrences reported
  exact ⟨i, ⟨Nat.le_trans (Nat.le_add_right i _) short, occurs⟩, rfl⟩

theorem start_lt_of_mem_occurrences {span : Span} (reported : span ∈ occurrences query text) :
    span.start < span.stop := by
  obtain ⟨nonempty, i, -, -, rfl⟩ := exists_of_mem_occurrences reported
  exact Int.ofNat_lt.mpr (Nat.lt_add_of_pos_right (List.length_pos_iff.mpr nonempty))

/-- An occurrence that is not reported starts inside a reported one, behind its first character. -/
theorem mem_occurrences_or_exists (nonempty : query ≠ []) {i : Nat}
    (occurs : OccursAt query text i) :
    spanAt query i ∈ occurrences query text ∨
      ∃ span ∈ occurrences query text, span.start < i ∧ (i : Int) < span.stop := by
  obtain ⟨span, reported, start, stop⟩ := exists_mem_occurrences nonempty occurs.2
  rcases Int.lt_or_eq_of_le start with before | same
  · exact .inr ⟨span, reported, before, stop⟩
  · obtain ⟨j, -, rfl⟩ := exists_occursAt_of_mem reported
    cases Int.ofNat.inj same
    exact .inl reported

end

/-! ## The outcome of a search -/

/-- The outcome of a search for all leftmost occurrences of a query that do not overlap. -/
structure IsLeftmostSearch (query text : List Char) (outcome : Outcome) : Prop where
  matched_iff : outcome.matched = true ↔ query <:+: text
  matched_nil : query = [] → outcome.matched = true ∧ outcome.positions = []
  occurs : ∀ span ∈ outcome.positions, ∃ i, OccursAt query text i ∧ span = spanAt query i
  apart : outcome.positions.Pairwise fun a b => a.start < b.start ∧ a.stop ≤ b.start
  passed : query ≠ [] → ∀ i, OccursAt query text i →
    spanAt query i ∈ outcome.positions ∨
      ∃ span ∈ outcome.positions, span.start < i ∧ (i : Int) < span.stop
  rounds : ∀ spans, RoundsReport query text 0 spans ↔ query ≠ [] ∧ spans = outcome.positions

theorem isLeftmostSearch_runSimple (caseSensitive : Bool) (query text : List Char) :
    IsLeftmostSearch query (normalize caseSensitive text)
      (Matcher.runSimple caseSensitive query text) where
  matched_iff := matched_runSimple caseSensitive query text
  matched_nil := by
    rintro rfl
    rw [matched_runSimple, positions_runSimple]
    exact ⟨List.nil_infix, rfl⟩
  occurs := by
    rw [positions_runSimple]
    intro span reported
    exact exists_occursAt_of_mem reported
  apart := by
    rw [positions_runSimple]
    refine (pairwise_occurrences _ _).imp_of_mem fun {a b} reported _ apart => ?_
    exact ⟨Int.lt_of_lt_of_le (start_lt_of_mem_occurrences reported) apart, apart⟩
  passed := by
    rw [positions_runSimple]
    intro nonempty i occurs
    exact mem_occurrences_or_exists nonempty occurs
  rounds := by
    rw [positions_runSimple]
    intro spans
    exact roundsReport_iff

/-- Removing the case of a text leaves no text empty. -/
theorem normalize_eq_nil_iff (caseSensitive : Bool) (text : List Char) :
    normalize caseSensitive text = [] ↔ text = [] := by
  unfold normalize
  split
  · exact Iff.rfl
  · rw [← List.length_eq_zero_iff, Text.length_lower, Nat.add_eq_zero_iff, List.length_eq_zero_iff]
    refine and_iff_left_of_imp ?_
    rintro rfl
    rfl

/-- A substring search always has an outcome: all leftmost occurrences that do not overlap, in the
text and for the query without their case. What becomes of an empty query concerns exactly the
queries that were empty before. -/
theorem simple_search_is_leftmost (query text : String) (caseSensitive : Bool)
    (threshold : Binary64) :
    ∃ m outcome, Matcher.prepare .simple query caseSensitive threshold = .ok m ∧
      m.run text.toList = .ok outcome ∧
      IsLeftmostSearch (normalize caseSensitive query.toList)
        (normalize caseSensitive text.toList) outcome ∧
      (normalize caseSensitive query.toList = [] ↔ query = "") := by
  refine ⟨_, _, rfl, rfl, isLeftmostSearch_runSimple caseSensitive _ text.toList, ?_⟩
  rw [normalize_eq_nil_iff, String.toList_eq_nil_iff]

example : occurrences "aba".toList "ababacaba".toList = [⟨0, 3⟩, ⟨6, 9⟩] := by decide

end JsonSeek.Match
