import JsonSeek.Proofs.QuerySpelling
import JsonSeek.Proofs.SearchFailure

/-!
# Filters of an array

A filter such as `[?(@.price < '10')]` is read through several layers: brackets, parentheses,
blanks, the sign of the relation and the quotes of the literal. Whatever the literal holds apart
from brackets, all of them are taken off at the right places, and the filter selects the elements
that it describes (`run_condition_selects`). The two filters for equality and difference divide the
elements that have the property between them.
-/

namespace JsonSeek.Query

/-! ## The text of a filter -/

/-- A sign is the usual one of a relation, or the single equals sign. -/
def IsSign (relation : Relation) (sign : String) : Prop :=
  sign = relation.symbol ∨ relation = .equal ∧ sign = "="

/-- A literal in quotes. -/
def quotedLiteral (literal : String) : List Char := '\'' :: (literal.toList ++ ['\''])

/-- A condition that compares a property with a literal. -/
def conditionText (property sign literal : String) : List Char :=
  '@' :: '.' :: (property.toList ++ ' ' :: (sign.toList ++ ' ' :: quotedLiteral literal))

/-- What the brackets of a filter hold. -/
def filterBody (property sign literal : String) : List Char :=
  '?' :: '(' :: (conditionText property sign literal ++ [')'])

/-- A query for the elements that meet a condition. -/
def filterQuery (property sign literal : String) : String :=
  bracketQuery (filterBody property sign literal)

/-- What can stand for a property behind the dot of a condition. -/
structure IsPropertyName (name : String) : Prop where
  nonempty : name ≠ ""
  all : ∀ c ∈ name.toList, Text.isWordChar c = true

section

variable {relation : Relation} {property sign literal : String}

/-- Behind the property, the longest sign that fits is the one that stands there. -/
theorem readRelation_sign (isSign : IsSign relation sign) (rest : List Char) :
    readRelation (Text.trimStart Text.isBlank (' ' :: (sign.toList ++ ' ' :: rest))) =
      some (relation, ' ' :: rest) := by
  rcases isSign with rfl | ⟨rfl, rfl⟩
  · cases relation <;> simp only [Relation.symbol, String.reduceToList] <;> rfl
  · simp only [String.reduceToList]
    rfl

/-- A text that ends with a quoted literal ends with a quote. -/
theorem getLast?_append_quotedLiteral (before : List Char) (literal : String) :
    (before ++ quotedLiteral literal).getLast? = some '\'' := by
  rw [quotedLiteral, ← List.cons_append, ← List.append_assoc, List.getLast?_concat]

theorem strip_append_quotedLiteral {before : List Char}
    (starts : ∀ c ∈ (before ++ quotedLiteral literal).head?, Text.isBlank c = false) :
    Text.strip (before ++ quotedLiteral literal) = before ++ quotedLiteral literal := by
  refine Text.trim_of_ends starts fun c last => ?_
  rw [getLast?_append_quotedLiteral] at last
  cases last
  decide

theorem strip_quotedLiteral (literal : String) :
    Text.strip (' ' :: quotedLiteral literal) = quotedLiteral literal :=
  @strip_append_quotedLiteral literal [] (by rintro _ ⟨⟩; decide)

theorem unquoted_quotedLiteral (literal : String) :
    unquoted (quotedLiteral literal) = literal.toList := by
  simp [unquoted, quotedLiteral]

theorem conditionText_eq_append (property sign literal : String) :
    conditionText property sign literal =
      ('@' :: '.' :: (property.toList ++ ' ' :: (sign.toList ++ [' ']))) ++
        quotedLiteral literal := by
  simp [conditionText]

theorem strip_conditionText (property sign literal : String) :
    Text.strip (conditionText property sign literal) = conditionText property sign literal := by
  rw [conditionText_eq_append]
  exact strip_append_quotedLiteral (by rintro _ ⟨⟩; decide)

/-- One layer of parentheses is taken off, since the condition starts with no other one. -/
theorem withoutParentheses_conditionText (fuel : Nat) (property sign literal : String) :
    withoutParentheses (fuel + 1) ('(' :: (conditionText property sign literal ++ [')'])) =
      conditionText property sign literal := by
  rw [withoutParentheses, if_pos List.getLast?_concat, List.dropLast_concat, strip_conditionText]
  cases fuel <;> rfl

/-- Neither the question mark nor the parentheses of a filter are blanks. -/
theorem strip_append_parenthesis {first : Char} {rest : List Char}
    (starts : Text.isBlank first = false) :
    Text.strip (first :: (rest ++ [')'])) = first :: (rest ++ [')']) := by
  refine Text.trim_of_ends ?_ fun c last => ?_
  · rintro _ ⟨⟩
    exact starts
  · rw [← List.cons_append, List.getLast?_concat] at last
    cases last
    decide

/-- A filter is read as the condition that it states, whatever its literal holds. -/
theorem read?_filterBody (named : IsPropertyName property) (isSign : IsSign relation sign) :
    Comparison.read? (filterBody property sign literal) = some ⟨property, relation, literal⟩ := by
  have whole : Text.strip (filterBody property sign literal) =
      filterBody property sign literal :=
    @strip_append_parenthesis '?' ('(' :: conditionText property sign literal) (by decide)
  have inside : Text.strip ('(' :: (conditionText property sign literal ++ [')'])) =
      '(' :: (conditionText property sign literal ++ [')']) :=
    strip_append_parenthesis (by decide)
  have opened := withoutParentheses_conditionText
    (conditionText property sign literal ++ [')']).length property sign literal
  obtain ⟨taken, dropped⟩ := @Text.span_append Text.isWordChar property.toList
    (' ' :: (sign.toList ++ ' ' :: quotedLiteral literal)) named.all (by rintro _ ⟨⟩; decide)
  have nonempty : property.toList.isEmpty = false := by
    simpa using named.nonempty
  have quoted : (quotedLiteral literal).isEmpty = false := rfl
  rw [Comparison.read?, whole]
  simp only [filterBody, inside, List.length_cons, opened]
  simp only [conditionText, Text.span, taken, dropped, nonempty, readRelation_sign isSign,
    strip_quotedLiteral, quoted, unquoted_quotedLiteral, String.ofList_toList, Bool.false_eq_true,
    if_false]

/-! ## Brackets in a filter -/

theorem ne_bracket_of_isWordChar {c : Char} (word : Text.isWordChar c = true) :
    c ≠ '[' ∧ c ≠ ']' := by
  constructor <;> rintro rfl <;> revert word <;> decide

theorem ne_bracket_of_mem_sign (isSign : IsSign relation sign) {c : Char}
    (inside : c ∈ sign.toList) : c ≠ '[' ∧ c ≠ ']' := by
  rcases isSign with rfl | ⟨rfl, rfl⟩
  · constructor <;> rintro rfl <;> cases relation <;> revert inside <;> decide +kernel
  · constructor <;> rintro rfl <;> revert inside <;> decide +kernel

/-- A filter holds no brackets but those of its literal. -/
theorem isNested_filterBody (named : IsPropertyName property) (isSign : IsSign relation sign)
    (plain : ∀ c ∈ literal.toList, c ≠ '[' ∧ c ≠ ']') :
    IsNested (filterBody property sign literal) := by
  refine isNested_of_forall_ne fun c inside => ?_
  simp only [filterBody, conditionText, quotedLiteral, List.mem_cons, List.mem_append,
    List.not_mem_nil, or_false] at inside
  rcases inside with
    rfl | rfl | (rfl | rfl | ofName | rfl | ofSign | rfl | rfl | ofText | rfl) | rfl
  case inr.inr.inl.inr.inr.inl => exact ne_bracket_of_isWordChar (named.all c ofName)
  case inr.inr.inl.inr.inr.inr.inr.inl => exact ne_bracket_of_mem_sign isSign ofSign
  case inr.inr.inl.inr.inr.inr.inr.inr.inr.inr.inl => exact plain c ofText
  all_goals decide

/-- The tokens of a filter query. -/
theorem tokenize_filterQuery (named : IsPropertyName property) (isSign : IsSign relation sign)
    (plain : ∀ c ∈ literal.toList, c ≠ '[' ∧ c ≠ ']') :
    tokenize (filterQuery property sign literal) =
      .ok [.root, .filter (String.ofList (filterBody property sign literal))
        (some ⟨property, relation, literal⟩)] := by
  have text : (String.ofList (filterBody property sign literal)).toList =
      filterBody property sign literal := String.toList_ofList
  have nested := isNested_filterBody named isSign plain
  rw [← text] at nested
  have spelled := tokenize_bracketQuery (.filter (by rw [text]; exact List.mem_cons_self) nested)
  rwa [text, read?_filterBody named isSign] at spelled

end

/-! ## Selecting the elements -/

/-- The nodes of the elements of an array. -/
def elements (items : List Value) : List Node :=
  items.zipIdx.map fun (part, i) => ⟨[.index (i : Nat)], part⟩

theorem indexed_eq_map_zipIdx (i : Nat) (items : List Value) :
    Value.indexed i items = (items.zipIdx i).map fun (part, j) => (.index (j : Nat), part) := by
  induction items generalizing i with
  | nil => rfl
  | cons v rest ih =>
      rw [Value.indexed, ih, List.zipIdx_cons, List.map_cons]

theorem picks_filter (expression : String) (condition : Comparison) (items : List Value) :
    (Token.filter expression (some condition)).picks ⟨[], .arr items⟩ =
      (elements items).filter fun node => meets condition node.value := by
  simp only [Token.picks, Value.children, indexed_eq_map_zipIdx, elements, List.filter_map,
    List.map_map]
  rfl

/-- What it means to meet a condition. -/
theorem meets_iff {condition : Comparison} {v : Value} :
    meets condition v = true ↔
      ∃ fields actual, v = .obj fields ∧ Value.field? condition.property fields = some actual ∧
        condition.relation.holds actual condition.literal = .ok true := by
  constructor
  · intro met
    unfold meets at met
    cases tested : condition.test v with
    | error overflow => simp [tested] at met
    | ok holds =>
        obtain rfl : holds = true := by simpa [tested] using met
        cases v with
        | obj fields =>
            cases found : Value.field? condition.property fields with
            | none => simp [Comparison.test, found] at tested
            | some actual =>
                simp only [Comparison.test, found] at tested
                exact ⟨fields, actual, rfl, found, tested⟩
        | _ => simp [Comparison.test] at tested
  · rintro ⟨fields, actual, rfl, found, holds⟩
    simp only [meets, Comparison.test, found, holds]

/-- A query selects the elements of an array that meet a condition, in order, and nothing from
anything else. It fails on an array with an element that the condition orders by an integer beyond
the range of doubles. -/
structure SelectsBy (condition : Comparison) (query : String) : Prop where
  selected : ∀ items, (∀ v ∈ items, ¬ condition.OrdersHuge v) →
    run query (.arr items) = .ok ((elements items).filter fun node => meets condition node.value)
  overflow : ∀ items v, v ∈ items → condition.OrdersHuge v →
    run query (.arr items) = .error (.overflow .integerTooLarge)
  others : ∀ document, (∀ items, document ≠ .arr items) → run query document = .ok []

theorem selectsBy_of_tokenize {query expression : String} {condition : Comparison}
    (read : tokenize query = .ok [.root, .filter expression (some condition)]) :
    SelectsBy condition query where
  selected items moderate := by
    have passed : (Token.filter expression (some condition)).testsPass (.arr items) = true := by
      refine List.all_eq_true.mpr fun v inside => ?_
      simpa using mt test_eq_error_iff.mp (moderate v inside)
    rw [run_of_single read, if_pos passed, picks_filter]
  overflow items v inside huge := by
    have failed : (Token.filter expression (some condition)).testsPass (.arr items) = false :=
      testsPass_eq_false_iff.mpr
        ⟨expression, condition, items, rfl, rfl, v, inside, test_eq_error_iff.mpr huge⟩
    rw [run_of_single read, if_neg (Bool.eq_false_iff.mp failed)]
  others document scalar := by
    rw [run_of_single read]
    cases document with
    | arr items => exact absurd rfl (scalar items)
    | _ => rfl

/-- Equality and difference divide the elements that have the property between them. -/
theorem perm_equal_append_different (property literal : String) (nodes : List Node) :
    ((nodes.filter fun node => meets ⟨property, .equal, literal⟩ node.value) ++
      nodes.filter fun node => meets ⟨property, .different, literal⟩ node.value).Perm
        (nodes.filter fun node => (node.value.step? (.key property)).isSome) := by
  have parts (v : Value) :
      meets ⟨property, .equal, literal⟩ v =
          (((v.step? (.key property)).any fun actual => textOf actual == literal) &&
            (v.step? (.key property)).isSome) ∧
        meets ⟨property, .different, literal⟩ v =
          ((!(v.step? (.key property)).any fun actual => textOf actual == literal) &&
            (v.step? (.key property)).isSome) := by
    cases v with
    | obj fields =>
        cases found : Value.field? property fields with
        | none => simp [meets, Comparison.test, Value.step?, found]
        | some actual =>
            simp [meets, Comparison.test, Relation.holds, Value.step?, found, bne]
    | _ => simp [meets, Comparison.test, Value.step?]
  simp only [parts, ← List.filter_filter]
  exact List.filter_append_perm _ _

/-- A filter by a property and a quoted literal is read as the condition that it states, whatever
the literal holds apart from brackets, and selects the elements that meet it: objects that have the
property with a value in that relation to the literal. The filters for equality and difference
together select every element that has the property once. -/
theorem run_condition_selects {property literal : String} (named : IsPropertyName property)
    (plain : ∀ c ∈ literal.toList, c ≠ '[' ∧ c ≠ ']') :
    (∀ relation sign, IsSign relation sign →
      tokenize (filterQuery property sign literal) =
          .ok [.root, .filter (String.ofList (filterBody property sign literal))
            (some ⟨property, relation, literal⟩)] ∧
        SelectsBy ⟨property, relation, literal⟩ (filterQuery property sign literal)) ∧
      (∀ relation v, meets ⟨property, relation, literal⟩ v = true ↔
        ∃ fields actual, v = .obj fields ∧ Value.field? property fields = some actual ∧
          relation.holds actual literal = .ok true) ∧
      ∀ items, ∃ equal different,
        run (filterQuery property "==" literal) (.arr items) = .ok equal ∧
          run (filterQuery property "!=" literal) (.arr items) = .ok different ∧
          (equal ++ different).Perm
            ((elements items).filter fun node => (node.value.step? (.key property)).isSome) := by
  have read {relation : Relation} {sign : String} (isSign : IsSign relation sign) :=
    @tokenize_filterQuery relation property sign literal named isSign plain
  refine ⟨fun relation sign isSign => ⟨read isSign, selectsBy_of_tokenize (read isSign)⟩,
    fun relation v => meets_iff, fun items => ?_⟩
  have equal := selectsBy_of_tokenize (@read .equal "==" (Or.inl rfl))
  have different := selectsBy_of_tokenize (@read .different "!=" (Or.inl rfl))
  exact ⟨_, _, equal.selected items fun v _ orders => orders.1 rfl,
    different.selected items fun v _ orders => orders.2.1 rfl,
    perm_equal_append_different property literal (elements items)⟩

/-- Elements with and without a property. -/
def remarks : List Value :=
  [.obj [("to_1", .str "(it's) >= 2 ")], .null, .obj [("to_1", .int 2)], .obj [("to", .null)]]

/-- A literal with a parenthesis, a quote and a sign of its own, and with a blank at its end. -/
theorem run_condition_of_awkward_literal :
    IsPropertyName "to_1" ∧ (∀ c ∈ "(it's) >= 2 ".toList, c ≠ '[' ∧ c ≠ ']') ∧
      filterQuery "to_1" "=" "(it's) >= 2 " = "$[?(@.to_1 = '(it's) >= 2 ')]" ∧
      ∃ found, run "$[?(@.to_1 = '(it's) >= 2 ')]" (.arr remarks) = .ok found ∧
        found.map Node.path = [[.index 0]] := by
  have words : "to_1".toList.all Text.isWordChar = true := by decide +kernel
  have named : IsPropertyName "to_1" := ⟨by decide +kernel, List.all_eq_true.mp words⟩
  have plain : ∀ c ∈ "(it's) >= 2 ".toList, c ≠ '[' ∧ c ≠ ']' := by simp
  have query : filterQuery "to_1" "=" "(it's) >= 2 " = "$[?(@.to_1 = '(it's) >= 2 ')]" := by
    decide +kernel
  obtain ⟨selects, -, -⟩ := run_condition_selects named plain
  have selected := (selects .equal "=" (Or.inr ⟨rfl, rfl⟩)).2.selected remarks
    fun v _ orders => orders.1 rfl
  rw [query] at selected
  exact ⟨named, plain, query, _, selected, by decide +kernel⟩

end JsonSeek.Query
