import JsonSeek.Proofs.Binary64Range
import JsonSeek.Proofs.PathSearch
import JsonSeek.Proofs.QueryMeaning
import JsonSeek.Proofs.TextSearch

/-!
# When a search fails

A search is meant to answer whatever the query says: a text that is no path query and a malformed
pattern find nothing. Two things still keep a search from answering (`search_error_iff`). A path
query fails on a condition that orders by size an integer beyond the range of doubles, and a pattern
fails if it is refused for more than its form or breaks down on a text.
-/

namespace JsonSeek

namespace Query

/-! ## Conditions that fail -/

/-- A condition orders an element by a property that holds an integer beyond the range of
doubles. -/
def Comparison.OrdersHuge (condition : Comparison) (v : Value) : Prop :=
  condition.relation ≠ .equal ∧ condition.relation ≠ .different ∧
    ∃ fields n, v = .obj fields ∧ Value.field? condition.property fields = some (.int n) ∧
      Binary64.overflowBound ≤ n.natAbs

/-- On the way of the tokens through a document some element of an array is ordered by a property
that holds an integer beyond the range of doubles. -/
def OrdersHuge : List Token → Value → Prop := TestsSome Comparison.OrdersHuge

theorem numberOf_eq_error_iff {v : Value} :
    (numberOf v).isOk = false ↔ ∃ n, v = .int n ∧ Binary64.overflowBound ≤ n.natAbs := by
  cases v with
  | int n =>
      have range := Binary64.ofInt?_eq_none_iff n
      cases rounded : Binary64.ofInt? n with
      | none =>
          have failed : (numberOf (.int n)).isOk = false := by
            simp only [numberOf, rounded]
            rfl
          exact iff_of_true failed ⟨n, rfl, range.mp rounded⟩
      | some x =>
          have read : (numberOf (.int n)).isOk = true := by
            simp only [numberOf, rounded]
            rfl
          refine iff_of_false (by simp [read]) ?_
          rintro ⟨_, ⟨⟩, huge⟩
          rw [range.mpr huge] at rounded
          cases rounded
  | _ =>
      refine iff_of_false (by simp [numberOf, Except.isOk, Except.toBool]) ?_
      rintro ⟨_, ⟨⟩, -⟩

theorem holds_eq_error_iff {relation : Relation} {actual : Value} {literal : String} :
    (relation.holds actual literal).isOk = false ↔
      relation ≠ .equal ∧ relation ≠ .different ∧ (numberOf actual).isOk = false := by
  have ordering (isOrdering : relation ≠ .equal ∧ relation ≠ .different) :
      (relation.holds actual literal).isOk = (numberOf actual).isOk := by
    unfold Relation.holds
    split
    · exact absurd rfl isOrdering.1
    · exact absurd rfl isOrdering.2
    · cases numberOf actual <;> rfl
  cases relation with
  | equal => exact iff_of_false (by simp [Relation.holds, Except.isOk, Except.toBool]) (by simp)
  | different => exact iff_of_false (by simp [Relation.holds, Except.isOk, Except.toBool]) (by simp)
  | _ => rw [ordering (by simp)]; simp

/-- A condition fails exactly on what it orders by an integer that is too large. -/
theorem test_eq_error_iff {condition : Comparison} {v : Value} :
    (condition.test v).isOk = false ↔ condition.OrdersHuge v := by
  cases v with
  | obj fields =>
      cases found : Value.field? condition.property fields with
      | none =>
          refine iff_of_false (by simp [Comparison.test, found, Except.isOk, Except.toBool]) ?_
          rintro ⟨-, -, _, n, ⟨⟩, present, -⟩
          rw [found] at present
          cases present
      | some actual =>
          have tested : condition.test (.obj fields) =
              condition.relation.holds actual condition.literal := by
            simp only [Comparison.test, found]
          rw [tested, holds_eq_error_iff, numberOf_eq_error_iff]
          constructor
          · rintro ⟨notEqual, notDifferent, n, rfl, huge⟩
            exact ⟨notEqual, notDifferent, fields, n, rfl, found, huge⟩
          · rintro ⟨notEqual, notDifferent, _, n, ⟨⟩, present, huge⟩
            exact ⟨notEqual, notDifferent, n, Option.some.inj (found.symm.trans present), huge⟩
  | _ =>
      refine iff_of_false (by simp [Comparison.test, Except.isOk, Except.toBool]) ?_
      rintro ⟨-, -, _, _, ⟨⟩, -⟩

theorem testFails_iff_ordersHuge {tokens : List Token} {document : Value} :
    TestFails tokens document ↔ OrdersHuge tokens document := by
  simp only [TestFails, OrdersHuge, TestsSome, test_eq_error_iff]

end Query

namespace Search

variable {o : Options} {document : Value}

/-! ## Path queries -/

theorem search_jsonPath (paths : o.mode = .jsonPath) :
    (∃ fault, search o document = .error fault) ↔
      ∃ tokens, Query.tokenize o.query = .ok tokens ∧ Query.OrdersHuge tokens document := by
  cases read : Query.tokenize o.query with
  | error unrooted =>
      have ran : Query.run o.query document = .error (.unrooted unrooted) := by
        simp only [Query.run, read]
      rw [search_of_unrooted paths ran]
      exact iff_of_false (by rintro ⟨_, ⟨⟩⟩) (by simp)
  | ok tokens =>
      have selected := Query.select_eq_ite tokens [] document
      simp only [Except.ok.injEq, exists_eq_left', ← Query.testFails_iff_ordersHuge,
        Query.testFails_iff]
      cases passed : Query.passes tokens [⟨[], document⟩] with
      | false =>
          rw [passed] at selected
          have ran : Query.run o.query document = .error (.overflow .integerTooLarge) := by
            simp [Query.run, read, selected, Except.mapError]
          rw [search_of_overflow paths ran]
          exact iff_of_true ⟨_, rfl⟩ rfl
      | true =>
          rw [passed] at selected
          obtain ⟨nodes, ran⟩ : ∃ nodes, Query.run o.query document = .ok nodes := by
            simp [Query.run, read, selected, Except.mapError]
          rw [search_of_run paths ran]
          exact iff_of_false (by rintro ⟨_, ⟨⟩⟩) (by simp)

/-- A text that does not start with `$` is no path query and finds nothing. -/
theorem search_unrooted (paths : o.mode = .jsonPath) (unrooted : o.query.toList.head? ≠ some '$') :
    ∃ response, search o document = .ok response ∧ response.results = [] := by
  have read : Query.tokenize o.query = .error ⟨o.query⟩ := by
    unfold Query.tokenize
    split
    · rename_i starts
      exact absurd (by rw [starts]; rfl) unrooted
    · rfl
  have ran : Query.run o.query document = .error (.unrooted ⟨o.query⟩) := by
    simp only [Query.run, read]
  exact ⟨_, search_of_unrooted paths ran, rfl⟩

/-! ## Texts -/

theorem search_text {mode : Match.TextMode} (texts : o.mode = .text mode) :
    (∃ fault, search o document = .error fault) ↔
      (∃ fault, Match.Matcher.prepare mode o.query o.caseSensitive o.threshold = .error fault) ∨
        ∃ m, Match.Matcher.prepare mode o.query o.caseSensitive o.threshold = .ok m ∧
          BreaksDown m o document := by
  cases prepared : Match.Matcher.prepare mode o.query o.caseSensitive o.threshold with
  | error fault =>
      refine iff_of_true ⟨.pattern fault, ?_⟩ (Or.inl ⟨fault, rfl⟩)
      simp [search, scan, texts, prepared]
  | ok m =>
      by_cases breaks : BreaksDown m o document
      · exact iff_of_true ⟨_, search_of_breaksDown texts prepared breaks⟩ (Or.inr ⟨m, rfl, breaks⟩)
      · refine iff_of_false ?_ (by simp [breaks])
        rintro ⟨fault, failed⟩
        rw [search_of_not_breaksDown texts prepared breaks] at failed
        cases failed

theorem prepare_regex (query : String) (caseSensitive : Bool) (threshold : Binary64) :
    Match.Matcher.prepare .regex query caseSensitive threshold =
      match Regex.Pattern.read (!caseSensitive) query with
      | .ok pattern => .ok (.regex (some pattern))
      | .error .malformed => .ok (.regex none)
      | .error .repetitionTooLarge => .error .repetitionTooLarge
      | .error .codePointTooLarge => .error .codePointTooLarge
      | .error .conflictingFlags => .error .conflictingFlags := by
  simp only [Match.Matcher.prepare, Match.compile]
  cases Regex.Pattern.read (!caseSensitive) query with
  | ok pattern => rfl
  | error fault => cases fault <;> rfl

theorem isHit_malformed (o : Options) (node : Node) : isHit (.regex none) o node = false := by
  have never (text : String) : (outcomeOf (.regex none) text).matched = false := rfl
  cases text : node.value.text? <;> simp [isHit, keyFound, valueFound, pathFound, never, text]

theorem not_breaksDown_malformed : ¬ BreaksDown (.regex none) o document := by
  rintro ⟨before, node, after, -, -, breaks⟩
  have never (text : String) : failsOn (.regex none) text = false := rfl
  cases text : node.value.text? <;> simp [breaksOn, never, text] at breaks

/-- A malformed pattern finds nothing. -/
theorem search_malformed (patterns : o.mode = .text .regex)
    (malformed : Regex.Pattern.read (!o.caseSensitive) o.query = .error .malformed) :
    ∃ response, search o document = .ok response ∧ response.results = [] := by
  have prepared : Match.Matcher.prepare .regex o.query o.caseSensitive o.threshold =
      .ok (.regex none) := by
    rw [prepare_regex, malformed]
  have nothing : firstHits (.regex none) o document = [] := by
    simp [firstHits, isHit_malformed]
  refine ⟨_, search_of_not_breaksDown patterns prepared not_breaksDown_malformed, ?_⟩
  simp [nothing, grouped]

theorem search_regex (patterns : o.mode = .text .regex) :
    (∃ fault, search o document = .error fault) ↔
      (∃ fault, fault ≠ .malformed ∧
        Regex.Pattern.read (!o.caseSensitive) o.query = .error fault) ∨
      ∃ pattern, Regex.Pattern.read (!o.caseSensitive) o.query = .ok pattern ∧
        BreaksDown (.regex (some pattern)) o document := by
  rw [search_text patterns, prepare_regex]
  cases Regex.Pattern.read (!o.caseSensitive) o.query with
  | ok pattern => simp
  | error fault =>
      cases fault with
      | malformed => simp [not_breaksDown_malformed]
      | _ => simp

/-! ## All modes -/

/-- A search fails exactly if a path query orders an integer beyond the range of doubles, or a
pattern is refused for more than its form or breaks down on a text before the limit. In particular a
text that is no path query and a malformed pattern find nothing. -/
theorem search_error_iff (o : Options) (document : Value) :
    ((∃ fault, search o document = .error fault) ↔
      (o.mode = .jsonPath ∧
        ∃ tokens, Query.tokenize o.query = .ok tokens ∧ Query.OrdersHuge tokens document) ∨
      (o.mode = .text .regex ∧
        ((∃ fault, fault ≠ .malformed ∧
          Regex.Pattern.read (!o.caseSensitive) o.query = .error fault) ∨
        ∃ pattern, Regex.Pattern.read (!o.caseSensitive) o.query = .ok pattern ∧
          BreaksDown (.regex (some pattern)) o document))) ∧
    (o.mode = .jsonPath → o.query.toList.head? ≠ some '$' →
      ∃ response, search o document = .ok response ∧ response.results = []) ∧
    (o.mode = .text .regex → Regex.Pattern.read (!o.caseSensitive) o.query = .error .malformed →
      ∃ response, search o document = .ok response ∧ response.results = []) := by
  refine ⟨?_, search_unrooted, search_malformed⟩
  cases mode : o.mode with
  | jsonPath => simpa using search_jsonPath mode
  | text textMode =>
      cases textMode with
      | regex => simpa using search_regex mode
      | simple =>
          rw [search_text mode]
          simpa [Match.Matcher.prepare] using not_breaksDown Match.TextMode.noConfusion
      | fuzzy =>
          rw [search_text mode]
          simpa [Match.Matcher.prepare] using not_breaksDown Match.TextMode.noConfusion

/-- A path query that orders the elements of an array by a property. -/
def ordering : Options :=
  Request.fill .default { query := "$[?(@.a > 1)]", mode := .jsonPath }

/-- An element whose property no double is near to. -/
def hugeInteger : Value := .arr [.obj [("a", .int (Nat.pow 10 400))]]

/-- A path query that starts with `$` may leave a search without a response. -/
theorem search_fails_on_huge_integer :
    ¬ ∃ response, search ordering hugeInteger = .ok response := by
  have failed : (search ordering hugeInteger).isOk = false := by decide +kernel
  rintro ⟨response, answered⟩
  rw [answered] at failed
  cases failed

end Search

end JsonSeek
