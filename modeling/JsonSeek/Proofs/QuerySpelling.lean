import JsonSeek.Proofs.PathSpelling
import JsonSeek.Query.Token
import Mathlib.Data.List.TakeWhile

/-!
# Reading back the spellings of a query

Every selector has one or more spellings, behind a dot or in brackets, and behind a descent the dot
may be left out. Whatever spellings are put one behind the other, reading yields their tokens
(`tokenize_spelling`): a name ends where the next spelling starts, and a bracket at its own end,
whatever brackets a condition holds.
-/

namespace JsonSeek

namespace Text

theorem isBlank_of_isDigit {c : Char} (digit : c.isDigit = true) : isBlank c = false := by
  simp only [Char.isDigit, Bool.and_eq_true, decide_eq_true_eq, UInt32.le_iff_toNat_le] at digit
  have low : 48 ≤ c.toNat := digit.1
  have high : c.toNat ≤ 57 := digit.2
  have noSpace : c ≠ ' ' := by
    rintro rfl
    exact absurd low (by decide)
  simp only [isBlank, isPlainBlank, isWideBlank, Bool.or_eq_false_iff, Bool.and_eq_false_iff,
    beq_eq_false_iff_ne, decide_eq_false_iff_not, ne_eq, noSpace, not_false_eq_true, true_and]
  omega

/-- A text that neither starts nor ends with a blank is left as it is. -/
theorem trim_of_ends {blank : Char → Bool} {s : List Char}
    (starts : ∀ c ∈ s.head?, blank c = false) (ends : ∀ c ∈ s.getLast?, blank c = false) :
    trim blank s = s := by
  have kept (l : List Char) (starts : ∀ c ∈ l.head?, blank c = false) :
      l.dropWhile blank = l := by
    cases l with
    | nil => rfl
    | cons c rest => exact List.dropWhile_cons_of_neg (by simp [starts c rfl])
  rw [← List.head?_reverse] at ends
  rw [trim, kept s starts, kept s.reverse ends, List.reverse_reverse]

theorem trim_of_none {blank : Char → Bool} {s : List Char} (none : ∀ c ∈ s, blank c = false) :
    trim blank s = s :=
  trim_of_ends (fun c first => none c (List.mem_of_head? first))
    fun c last => none c (List.mem_of_getLast? last)

end Text

namespace Query

/-! ## Spellings -/

/-- The brackets of a text are properly nested. -/
inductive IsNested : List Char → Prop
  | nil : IsNested []
  | char {c : Char} {rest : List Char} : c ≠ '[' → c ≠ ']' → IsNested rest → IsNested (c :: rest)
  | group {inner rest : List Char} : IsNested inner → IsNested rest →
      IsNested ('[' :: (inner ++ ']' :: rest))

/-- A text without the characters that decide what brackets mean and where they end. -/
def IsFree (text : List Char) : Prop := ∀ c ∈ text, c ≠ '[' ∧ c ≠ ']' ∧ c ≠ '?' ∧ c ≠ ':'

/-- The digits of a natural, with or without leading zeros. -/
structure IsDecimalOf (n : Nat) (digits : List Char) : Prop where
  nonempty : digits ≠ []
  all : ∀ c ∈ digits, c.isDigit = true
  value : Nat.ofDigitChars 10 digits 0 = n

/-- A part of a slice: nothing, or a decimal integer. -/
inductive IsBound : Option Int → List Char → Prop
  | omitted : IsBound none []
  | natural {n : Nat} {digits : List Char} : IsDecimalOf n digits → IsBound (some n) digits
  | positive {n : Nat} {digits : List Char} : IsDecimalOf n digits →
      IsBound (some n) ('+' :: digits)
  | negative {n : Nat} {digits : List Char} : IsDecimalOf n digits →
      IsBound (some (-n)) ('-' :: digits)

/-- What a dot stands in front of. -/
inductive IsDotted : Token → List Char → Prop
  | wildcard : IsDotted .wildcard ['*']
  | property {name : String} : name.toList ≠ [] → '.' ∉ name.toList → '[' ∉ name.toList →
      name.toList.head? ≠ some '*' → IsDotted (.property name) name.toList

/-- What brackets hold. -/
inductive IsBracketed : Token → List Char → Prop
  | wildcard : IsBracketed .wildcard ['*']
  | index {n : Nat} {digits : List Char} : IsDecimalOf n digits → IsBracketed (.index n) digits
  | property {quote : Char} {name : String} : quote = '\'' ∨ quote = '"' →
      IsFree name.toList →
      IsBracketed (.property name) (quote :: (name.toList ++ [quote]))
  | slice {start stop : Option Int} {first second : List Char} : IsBound start first →
      IsBound stop second → IsBracketed (.slice start stop none) (first ++ ':' :: second)
  | steppedSlice {start stop step : Option Int} {first second third : List Char} :
      IsBound start first → IsBound stop second → IsBound step third →
      IsBracketed (.slice start stop step) (first ++ ':' :: (second ++ ':' :: third))
  | filter {expression : String} : '?' ∈ expression.toList → IsNested expression.toList →
      IsBracketed (.filter expression (Comparison.read? expression.toList)) expression.toList

/-- A spelling of a token. -/
inductive IsSpelling : Token → List Char → Prop
  | descent : IsSpelling .descent ['.', '.']
  | dotted {token : Token} {text : List Char} : IsDotted token text →
      IsSpelling token ('.' :: text)
  | bracketed {token : Token} {body : List Char} : IsBracketed token body →
      IsSpelling token ('[' :: (body ++ [']']))

/-- Spellings of tokens, one behind the other. Behind a descent a dot may be left out. -/
inductive AreSpelled : List Token → List Char → Prop
  | nil : AreSpelled [] []
  | cons {token : Token} {rest : List Token} {text more : List Char} : IsSpelling token text →
      AreSpelled rest more → AreSpelled (token :: rest) (text ++ more)
  | undotted {token : Token} {rest : List Token} {text more : List Char} : IsDotted token text →
      AreSpelled rest more →
      AreSpelled (.descent :: token :: rest) ('.' :: '.' :: (text ++ more))

/-! ## Characters -/

theorem IsFree.append {first second : List Char} (firstFree : IsFree first)
    (secondFree : IsFree second) : IsFree (first ++ second) := by
  intro c inside
  rcases List.mem_append.mp inside with inside | inside
  · exact firstFree c inside
  · exact secondFree c inside

theorem IsDecimalOf.isFree {n : Nat} {digits : List Char} (decimal : IsDecimalOf n digits) :
    IsFree digits := by
  intro c inside
  have digit := decimal.all c inside
  have other (d : Char) (noDigit : d.isDigit = false) : c ≠ d := by
    rintro rfl
    rw [digit] at noDigit
    cases noDigit
  exact ⟨other _ rfl, other _ rfl, other _ rfl, other _ rfl⟩

theorem IsBound.isFree {bound : Option Int} {text : List Char} (spelled : IsBound bound text) :
    IsFree text := by
  have plus : IsFree ['+'] := by simp [IsFree]
  have minus : IsFree ['-'] := by simp [IsFree]
  cases spelled with
  | omitted => simp [IsFree]
  | natural decimal => exact decimal.isFree
  | positive decimal => exact plus.append decimal.isFree
  | negative decimal => exact minus.append decimal.isFree

theorem isFree_quoted {quote : Char} {name : List Char} (isQuote : quote = '\'' ∨ quote = '"')
    (free : IsFree name) : IsFree (quote :: (name ++ [quote])) := by
  have single : IsFree [quote] := by
    rcases isQuote with rfl | rfl <;> simp [IsFree]
  exact single.append (free.append single)

/-! ## Brackets -/

theorem isNested_of_forall_ne {text : List Char} (plain : ∀ c ∈ text, c ≠ '[' ∧ c ≠ ']') :
    IsNested text := by
  induction text with
  | nil => exact .nil
  | cons c rest ih =>
      obtain ⟨noOpen, noClose⟩ := plain c List.mem_cons_self
      exact .char noOpen noClose (ih fun c inside => plain c (List.mem_cons_of_mem _ inside))

theorem IsFree.isNested {text : List Char} (free : IsFree text) : IsNested text := by
  refine isNested_of_forall_ne fun c inside => ?_
  obtain ⟨noOpen, noClose, -, -⟩ := free c inside
  exact ⟨noOpen, noClose⟩

theorem IsNested.append {first second : List Char} (firstNested : IsNested first)
    (secondNested : IsNested second) : IsNested (first ++ second) := by
  induction firstNested with
  | nil => exact secondNested
  | char noOpen noClose _ ih => exact .char noOpen noClose ih
  | group inner _ _ ih =>
      rw [List.cons_append, List.append_assoc, List.cons_append]
      exact .group inner ih

/-- Whatever brackets hold is properly nested. -/
theorem IsBracketed.isNested {token : Token} {body : List Char} (spelled : IsBracketed token body) :
    IsNested body := by
  have colon {rest : List Char} (nested : IsNested rest) : IsNested (':' :: rest) :=
    .char (by decide) (by decide) nested
  cases spelled with
  | wildcard => exact .char (by decide) (by decide) .nil
  | index decimal => exact decimal.isFree.isNested
  | property isQuote free => exact (isFree_quoted isQuote free).isNested
  | slice start stop => exact start.isFree.isNested.append (colon stop.isFree.isNested)
  | steppedSlice start stop step =>
      exact start.isFree.isNested.append
        (colon (stop.isFree.isNested.append (colon step.isFree.isNested)))
  | filter condition nested => exact nested

/-- A properly nested text does not change the level of brackets. -/
theorem splitBracket_append {text : List Char} (nested : IsNested text) (level : Nat)
    (rest : List Char) :
    splitBracket level (text ++ rest) =
      (text ++ (splitBracket level rest).1, (splitBracket level rest).2) := by
  induction nested generalizing level rest with
  | nil => rfl
  | char noOpen noClose _ ih => simp [splitBracket, noOpen, noClose, ih]
  | group _ _ inner behind =>
      have opened (rest : List Char) : splitBracket level ('[' :: rest) =
          ('[' :: (splitBracket (level + 1) rest).1, (splitBracket (level + 1) rest).2) := rfl
      have closed (rest : List Char) : splitBracket (level + 1) (']' :: rest) =
          (']' :: (splitBracket level rest).1, (splitBracket level rest).2) := rfl
      rw [List.cons_append, List.append_assoc, List.cons_append, opened, inner, closed, behind]
      simp

/-- A bracket ends at its own end. -/
theorem splitBracket_of_isNested {body : List Char} (nested : IsNested body) (rest : List Char) :
    splitBracket 0 (body ++ ']' :: rest) = (body, rest) := by
  rw [splitBracket_append nested, splitBracket]
  simp

/-! ## Slices -/

theorem span_isDecimal {n : Nat} {digits : List Char} (decimal : IsDecimalOf n digits) :
    digits.takeWhile Text.isDecimal = digits ∧ digits.dropWhile Text.isDecimal = [] := by
  have all : ∀ c ∈ digits, Text.isDecimal c = true := fun c inside =>
    Text.isDecimal_of_isDigit (decimal.all c inside)
  exact ⟨List.takeWhile_eq_self_iff.mpr all, List.dropWhile_eq_nil_iff.mpr all⟩

theorem IsDecimalOf.decimalNat_eq {n : Nat} {digits : List Char} (decimal : IsDecimalOf n digits) :
    Text.decimalNat digits = n :=
  (Text.decimalNat_of_isDigit decimal.all).trans decimal.value

theorem IsBound.strip_eq {bound : Option Int} {text : List Char} (spelled : IsBound bound text) :
    Text.strip text = text := by
  refine Text.trim_of_none fun c inside => ?_
  cases spelled with
  | omitted => cases inside
  | natural decimal => exact Text.isBlank_of_isDigit (decimal.all c inside)
  | positive decimal =>
      rcases List.mem_cons.mp inside with rfl | inside
      · decide
      · exact Text.isBlank_of_isDigit (decimal.all c inside)
  | negative decimal =>
      rcases List.mem_cons.mp inside with rfl | inside
      · decide
      · exact Text.isBlank_of_isDigit (decimal.all c inside)

theorem splitSign_of_isDecimalOf {n : Nat} {digits : List Char} (decimal : IsDecimalOf n digits) :
    Text.splitSign digits = (false, digits) := by
  cases digits with
  | nil => rfl
  | cons c rest =>
      have digit := decimal.all c List.mem_cons_self
      unfold Text.splitSign
      split
      · rename_i tail same
        rw [(List.cons.inj same).1] at digit
        cases digit
      · rename_i tail same
        rw [(List.cons.inj same).1] at digit
        cases digit
      · rfl

/-- A part of a slice is read as the integer that it writes. -/
theorem leadingInt?_of_isBound {bound : Option Int} {text : List Char}
    (spelled : IsBound bound text) : leadingInt? text = bound := by
  rw [leadingInt?, spelled.strip_eq]
  cases spelled with
  | omitted => rfl
  | natural decimal =>
      rw [splitSign_of_isDecimalOf decimal]
      simp [(span_isDecimal decimal).1, decimal.nonempty, decimal.decimalNat_eq]
  | positive decimal =>
      simp [Text.splitSign, (span_isDecimal decimal).1, decimal.nonempty, decimal.decimalNat_eq]
  | negative decimal =>
      simp [Text.splitSign, (span_isDecimal decimal).1, decimal.nonempty, decimal.decimalNat_eq]

theorem splitColons_of_isFree {text : List Char} (free : IsFree text) :
    splitColons text = [text] := by
  induction text with
  | nil => rfl
  | cons c rest ih =>
      obtain ⟨-, -, -, noColon⟩ := free c List.mem_cons_self
      rw [splitColons, if_neg noColon, ih fun c inside => free c (List.mem_cons_of_mem _ inside)]

theorem splitColons_append {text : List Char} (free : IsFree text) (rest : List Char) :
    splitColons (text ++ ':' :: rest) = text :: splitColons rest := by
  induction text with
  | nil => rfl
  | cons c more ih =>
      obtain ⟨-, -, -, noColon⟩ := free c List.mem_cons_self
      have later := ih fun c inside => free c (List.mem_cons_of_mem _ inside)
      rw [List.cons_append, splitColons, if_neg noColon, later]

/-! ## Single tokens -/

theorem readIndex?_of_isDecimalOf {n : Nat} {digits : List Char} (decimal : IsDecimalOf n digits) :
    readIndex? digits = some n := by
  obtain ⟨taken, dropped⟩ := span_isDecimal decimal
  simp [readIndex?, Text.span, taken, dropped, decimal.nonempty, decimal.decimalNat_eq]

theorem readIndex?_quoted {quote : Char} (isQuote : quote = '\'' ∨ quote = '"')
    (rest : List Char) : readIndex? (quote :: rest) = none := by
  rcases isQuote with rfl | rfl <;> rfl

theorem readBracket_of_question {body : List Char} (condition : '?' ∈ body) :
    readBracket body = some (.filter (String.ofList body) (Comparison.read? body)) := by
  have noStar : body ≠ ['*'] := by
    rintro rfl
    exact absurd condition (by decide)
  unfold readBracket
  rw [if_neg noStar, if_pos (List.contains_iff_mem.mpr condition)]

theorem readBracket_of_colon {body : List Char} (noCondition : '?' ∉ body) (colon : ':' ∈ body) :
    readBracket body = some (readSlice body) := by
  have noStar : body ≠ ['*'] := by
    rintro rfl
    exact absurd colon (by decide)
  unfold readBracket
  rw [if_neg noStar, if_neg (mt List.contains_iff_mem.mp noCondition),
    if_pos (List.contains_iff_mem.mpr colon)]

theorem IsFree.notMem {text : List Char} (free : IsFree text) : '?' ∉ text ∧ ':' ∉ text :=
  ⟨fun inside => (free _ inside).2.2.1 rfl, fun inside => (free _ inside).2.2.2 rfl⟩

theorem readBracket_of_isDecimalOf {n : Nat} {digits : List Char}
    (decimal : IsDecimalOf n digits) : readBracket digits = some (.index n) := by
  have noStar : digits ≠ ['*'] := by
    rintro rfl
    cases decimal.all '*' List.mem_cons_self
  obtain ⟨noCondition, noColon⟩ := decimal.isFree.notMem
  unfold readBracket
  rw [if_neg noStar, if_neg (mt List.contains_iff_mem.mp noCondition),
    if_neg (mt List.contains_iff_mem.mp noColon), readIndex?_of_isDecimalOf decimal]

theorem readBracket_quoted {quote : Char} {name : List Char}
    (isQuote : quote = '\'' ∨ quote = '"') (free : IsFree name) :
    readBracket (quote :: (name ++ [quote])) = some (.property (String.ofList name)) := by
  have noStar : quote :: (name ++ [quote]) ≠ ['*'] := by simp
  obtain ⟨noCondition, noColon⟩ := (isFree_quoted isQuote free).notMem
  unfold readBracket
  rw [if_neg noStar, if_neg (mt List.contains_iff_mem.mp noCondition),
    if_neg (mt List.contains_iff_mem.mp noColon), readIndex?_quoted isQuote]
  simp [isQuote]

/-- What brackets hold is read as the token that it spells. -/
theorem readBracket_of_isBracketed {token : Token} {body : List Char}
    (spelled : IsBracketed token body) : readBracket body = some token := by
  cases spelled with
  | wildcard => rfl
  | index decimal => exact readBracket_of_isDecimalOf decimal
  | property isQuote free => rw [readBracket_quoted isQuote free, String.ofList_toList]
  | slice start stop =>
      have noCondition := start.isFree.notMem.1
      have noCondition' := stop.isFree.notMem.1
      rw [readBracket_of_colon (by simp [noCondition, noCondition']) (by simp), readSlice,
        splitColons_append start.isFree, splitColons_of_isFree stop.isFree]
      simp only [leadingInt?_of_isBound start, leadingInt?_of_isBound stop]
  | steppedSlice start stop step =>
      have noCondition := start.isFree.notMem.1
      have noCondition' := stop.isFree.notMem.1
      have noCondition'' := step.isFree.notMem.1
      rw [readBracket_of_colon (by simp [noCondition, noCondition', noCondition'']) (by simp),
        readSlice, splitColons_append start.isFree, splitColons_append stop.isFree,
        splitColons_of_isFree step.isFree]
      simp only [leadingInt?_of_isBound start, leadingInt?_of_isBound stop,
        leadingInt?_of_isBound step]
  | filter condition nested =>
      rw [readBracket_of_question condition, String.ofList_toList]

/-- The text goes on with a dot or a bracket, or it is at its end. -/
def EndsName (rest : List Char) : Prop := ∀ c ∈ rest.head?, endsName c = true

theorem IsDotted.starts {token : Token} {text : List Char} (spelled : IsDotted token text) :
    ∃ c tail, text = c :: tail ∧ c ≠ '.' ∧ c ≠ '[' := by
  cases spelled with
  | wildcard => exact ⟨'*', [], rfl, by decide, by decide⟩
  | @property name nonempty noDot noBracket noStar =>
      obtain ⟨c, tail, chars⟩ := List.exists_cons_of_ne_nil nonempty
      rw [chars] at noDot noBracket
      refine ⟨c, tail, chars, ?_, ?_⟩
      · rintro rfl
        exact noDot List.mem_cons_self
      · rintro rfl
        exact noBracket List.mem_cons_self

/-- A name ends where the next spelling starts. -/
theorem readDotted_of_isDotted {token : Token} {text rest : List Char}
    (spelled : IsDotted token text) (ends : EndsName rest) :
    readDotted (text ++ rest) = ([token], rest) := by
  cases spelled with
  | wildcard => rfl
  | @property name nonempty noDot noBracket noStar =>
      have within : ∀ c ∈ name.toList, (!endsName c) = true := by
        intro c inside
        have otherDot : c ≠ '.' := fun same => noDot (same ▸ inside)
        have otherBracket : c ≠ '[' := fun same => noBracket (same ▸ inside)
        simp [endsName, otherDot, otherBracket]
      obtain ⟨taken, dropped⟩ := @Text.span_append (!endsName ·) name.toList rest within
        fun c first => by simp [ends c first]
      unfold readDotted
      split
      · rename_i tail starts
        obtain ⟨c, more, chars⟩ := List.exists_cons_of_ne_nil nonempty
        rw [chars, List.cons_append] at starts
        rw [chars, (List.cons.inj starts).1] at noStar
        exact absurd rfl noStar
      · simp [taken, dropped, nonempty, String.ofList_toList]

theorem readDotted_of_endsName {rest : List Char} (ends : EndsName rest) :
    readDotted rest = ([], rest) := by
  cases rest with
  | nil => rfl
  | cons c tail =>
      have stops := ends c rfl
      have noStar : c ≠ '*' := by
        rintro rfl
        cases stops
      unfold readDotted
      split
      · rename_i starts
        exact absurd (List.cons.inj starts).1 noStar
      · simp [stops]

/-! ## Rounds -/

theorem length_readDotted_le (s : List Char) : (readDotted s).2.length ≤ s.length := by
  unfold readDotted
  split
  · simp
  · exact (List.dropWhile_sublist _).length_le

theorem length_splitBracket_le (level : Nat) (s : List Char) :
    (splitBracket level s).2.length ≤ s.length := by
  induction s generalizing level with
  | nil => exact Nat.le_refl _
  | cons c rest ih =>
      rw [splitBracket]
      split
      · exact Nat.le_succ _
      · exact Nat.le_succ_of_le (ih _)

/-- Rounds beyond the length of the text change nothing. -/
theorem readTokens_eq_readTokens {first second : Nat} {s : List Char} (enough : s.length ≤ first)
    (enough' : s.length ≤ second) : readTokens first s = readTokens second s := by
  induction first generalizing second s with
  | zero =>
      obtain rfl := List.length_eq_zero_iff.mp (Nat.le_zero.mp enough)
      cases second <;> rfl
  | succ first ih =>
      cases second with
      | zero =>
          obtain rfl := List.length_eq_zero_iff.mp (Nat.le_zero.mp enough')
          rfl
      | succ second =>
          unfold readTokens
          split
          · rfl
          · simp only [List.length_cons] at enough enough'
            rw [@ih second _ (by simp; omega) (by simp; omega)]
          · rename_i rest _
            have shorter := length_readDotted_le rest
            simp only [List.length_cons] at enough enough'
            have later := @ih second (readDotted rest).2 (by omega) (by omega)
            exact congrArg (fun more => .descent :: ((readDotted rest).1 ++ more)) later
          · rename_i rest _ _
            have shorter := length_readDotted_le rest
            simp only [List.length_cons] at enough enough'
            have later := @ih second (readDotted rest).2 (by omega) (by omega)
            exact congrArg ((readDotted rest).1 ++ ·) later
          · rename_i rest
            have shorter := length_splitBracket_le 0 rest
            simp only [List.length_cons] at enough enough'
            have later := @ih second (splitBracket 0 rest).2 (by omega) (by omega)
            exact congrArg ((readBracket (splitBracket 0 rest).1).toList ++ ·) later
          · simp only [List.length_cons] at enough enough'
            exact ih (by omega) (by omega)

/-- The tokens of a text behind `$`, in as many rounds as it needs. -/
def tokens (s : List Char) : List Token := readTokens s.length s

theorem readTokens_eq_tokens {fuel : Nat} {s : List Char} (enough : s.length ≤ fuel) :
    readTokens fuel s = tokens s :=
  readTokens_eq_readTokens enough (Nat.le_refl _)

@[simp] theorem tokens_nil : tokens [] = [] := rfl

theorem tokens_bracket (rest : List Char) :
    tokens ('[' :: rest) =
      (readBracket (splitBracket 0 rest).1).toList ++ tokens (splitBracket 0 rest).2 := by
  have later := readTokens_eq_tokens (length_splitBracket_le 0 rest)
  exact congrArg ((readBracket (splitBracket 0 rest).1).toList ++ ·) later

theorem tokens_dot {rest : List Char} (single : rest.head? ≠ some '.') :
    tokens ('.' :: rest) = (readDotted rest).1 ++ tokens (readDotted rest).2 := by
  have later := readTokens_eq_tokens (length_readDotted_le rest)
  rw [tokens, List.length_cons, readTokens]
  · exact congrArg ((readDotted rest).1 ++ ·) later
  · rintro tail rfl
    exact single rfl
  · rintro tail rfl
    exact single rfl

theorem tokens_descent_bracket (rest : List Char) :
    tokens ('.' :: '.' :: '[' :: rest) = .descent :: tokens ('[' :: rest) := by
  have later := @readTokens_eq_tokens ('[' :: rest).length.succ ('[' :: rest) (Nat.le_succ _)
  exact congrArg (.descent :: ·) later

theorem tokens_descent {rest : List Char} (noBracket : rest.head? ≠ some '[') :
    tokens ('.' :: '.' :: rest) =
      .descent :: ((readDotted rest).1 ++ tokens (readDotted rest).2) := by
  have later := @readTokens_eq_tokens rest.length.succ _
    (Nat.le_succ_of_le (length_readDotted_le rest))
  rw [tokens, List.length_cons, List.length_cons, readTokens]
  · exact congrArg (fun more => .descent :: ((readDotted rest).1 ++ more)) later
  · rintro tail rfl
    exact noBracket rfl

/-! ## Whole queries -/

/-- Every spelling ends the name in front of it. -/
theorem AreSpelled.endsName {list : List Token} {text : List Char}
    (spelled : AreSpelled list text) : EndsName text := by
  cases spelled with
  | nil => simp [EndsName]
  | cons first rest => cases first <;> simp [EndsName, Query.endsName]
  | undotted first rest => simp [EndsName, Query.endsName]

/-- One spelling is read as its token, and reading goes on behind it. -/
theorem tokens_append {token : Token} {text rest : List Char} (spelled : IsSpelling token text)
    (ends : EndsName rest) : tokens (text ++ rest) = token :: tokens rest := by
  cases spelled with
  | descent =>
      by_cases bracket : rest.head? = some '['
      · obtain ⟨tail, rfl⟩ := List.head?_eq_some_iff.mp bracket
        exact tokens_descent_bracket tail
      · rw [List.cons_append, List.cons_append, List.nil_append, tokens_descent bracket,
          readDotted_of_endsName ends]
        rfl
  | dotted dotted =>
      obtain ⟨c, tail, rfl, noDot, -⟩ := dotted.starts
      rw [List.cons_append, tokens_dot (by simpa using noDot), readDotted_of_isDotted dotted ends]
      rfl
  | bracketed bracketed =>
      rw [List.cons_append, List.append_assoc, List.singleton_append, tokens_bracket,
        splitBracket_of_isNested bracketed.isNested, readBracket_of_isBracketed bracketed]
      rfl

/-- Spellings one behind the other are read as their tokens. -/
theorem tokens_of_areSpelled {list : List Token} {text : List Char}
    (spelled : AreSpelled list text) : tokens text = list := by
  induction spelled with
  | nil => rfl
  | cons first rest ih => rw [tokens_append first rest.endsName, ih]
  | undotted first rest ih =>
      obtain ⟨c, tail, rfl, -, noBracket⟩ := first.starts
      rw [tokens_descent (by simpa using noBracket), readDotted_of_isDotted first rest.endsName, ih]
      rfl

/-- A query of a single selector in brackets. -/
def bracketQuery (body : List Char) : String := String.ofList ('$' :: '[' :: (body ++ [']']))

theorem tokenize_bracketQuery {token : Token} {body : List Char}
    (spelled : IsBracketed token body) : tokenize (bracketQuery body) = .ok [.root, token] := by
  have alone : AreSpelled [token] ('[' :: (body ++ [']'])) := by
    simpa using AreSpelled.cons (.bracketed spelled) .nil
  have read : tokens ('[' :: (body ++ [']'])) = [token] := tokens_of_areSpelled alone
  rw [bracketQuery, tokenize, String.toList_ofList]
  exact congrArg (fun rest => Except.ok (.root :: rest)) read

/-- Behind `$`, spellings of tokens are read as these tokens behind the root. -/
theorem tokenize_spelling {list : List Token} {text : List Char} (spelled : AreSpelled list text) :
    tokenize (String.ofList ('$' :: text)) = .ok (.root :: list) := by
  have read : readTokens text.length text = list := tokens_of_areSpelled spelled
  rw [tokenize, String.toList_ofList]
  simp only [read]

/-- Selectors of every kind; the condition holds brackets. -/
def selectors : List Token :=
  [.descent, .property "name", .descent, .wildcard, .index 7,
    .filter "?(@.a == '[0]')" (some ⟨"a", .equal, "[0]"⟩), .slice (some (-1)) none (some 2),
    .property "x.y", .wildcard]

/-- A spelling of them in which one dot is left out and one is not. -/
theorem tokenize_selectors :
    ∃ text, AreSpelled selectors text ∧
      String.ofList ('$' :: text) = "$..name...*[07][?(@.a == '[0]')][-1::+2]['x.y'][*]" ∧
      tokenize "$..name...*[07][?(@.a == '[0]')][-1::+2]['x.y'][*]" =
        .ok (.root :: selectors) := by
  have name : IsDotted (.property "name") "name".toList :=
    .property (by decide +kernel) (by decide +kernel) (by decide +kernel) (by decide +kernel)
  have seven : IsDecimalOf 7 ['0', '7'] := ⟨by simp, by simp, rfl⟩
  have nested : IsNested "?(@.a == '[0]')".toList := by
    have split : "?(@.a == '[0]')".toList =
        "?(@.a == '".toList ++ '[' :: (['0'] ++ ']' :: "')".toList) := by decide +kernel
    rw [split]
    exact (isNested_of_forall_ne (by simp)).append
      (.group (isNested_of_forall_ne (by simp)) (isNested_of_forall_ne (by simp)))
  have condition : IsBracketed (.filter "?(@.a == '[0]')" (some ⟨"a", .equal, "[0]"⟩))
      "?(@.a == '[0]')".toList := by
    have read : Comparison.read? "?(@.a == '[0]')".toList = some ⟨"a", .equal, "[0]"⟩ := by
      decide +kernel
    rw [← read]
    exact .filter (by decide +kernel) nested
  have slice : IsBracketed (.slice (some (-1)) none (some 2))
      (['-', '1'] ++ ':' :: ([] ++ ':' :: ['+', '2'])) :=
    .steppedSlice (.negative ⟨by simp, by simp, rfl⟩) .omitted (.positive ⟨by simp, by simp, rfl⟩)
  have quoted : IsBracketed (.property "x.y") ('\'' :: ("x.y".toList ++ ['\''])) :=
    .property (Or.inl rfl) (by simp [IsFree])
  have spelled : AreSpelled selectors _ :=
    .undotted name <| .cons .descent <| .cons (.dotted .wildcard) <|
      .cons (.bracketed (.index seven)) <| .cons (.bracketed condition) <|
      .cons (.bracketed slice) <| .cons (.bracketed quoted) <|
      .cons (.bracketed .wildcard) .nil
  refine ⟨_, spelled, by decide +kernel, ?_⟩
  exact tokenize_spelling spelled

end Query

end JsonSeek
