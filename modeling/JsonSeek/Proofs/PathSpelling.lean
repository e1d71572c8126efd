import JsonSeek.Path.Reader

/-!
# Reading back the spellings of a path

A plain key and an index are always read back. A key in brackets is read back exactly if the reader,
which knows where quotes open and close but not where a key ends, is still inside the first quote at
the end of the key and has met no closing bracket outside quotes before (`isReadableKey`). Keys that
lack one of the two quotes pass. The spelling without `$` needs more: a plain first key must not
start with `$` itself.
-/

namespace JsonSeek

namespace Text

theorem decimalValue?_of_isDigit {c : Char} (digit : c.isDigit = true) :
    decimalValue? c = some (c.toNat - '0'.toNat) := by
  have small : c.toNat < 128 := by
    simp only [Char.isDigit, Bool.and_eq_true, decide_eq_true_eq, UInt32.le_iff_toNat_le] at digit
    exact Nat.lt_of_le_of_lt digit.2 (by decide)
  rw [decimalValue?, if_pos small, if_pos digit]
  rfl

theorem foldl_decimalValue? {digits : List Char} (allDigits : ∀ c ∈ digits, c.isDigit = true)
    (n : Nat) :
    digits.foldl (fun n c => 10 * n + (decimalValue? c).getD 0) n =
      Nat.ofDigitChars 10 digits n := by
  induction digits generalizing n with
  | nil => simp
  | cons c rest ih =>
      have value := decimalValue?_of_isDigit (allDigits c List.mem_cons_self)
      rw [List.foldl_cons, Nat.ofDigitChars_cons, value, Option.getD_some]
      exact ih (fun c inside => allDigits c (List.mem_cons_of_mem _ inside)) _

theorem decimalNat_of_isDigit {digits : List Char} (allDigits : ∀ c ∈ digits, c.isDigit = true) :
    decimalNat digits = Nat.ofDigitChars 10 digits 0 :=
  foldl_decimalValue? allDigits 0

theorem isDecimal_of_isDigit {c : Char} (digit : c.isDigit = true) : isDecimal c = true := by
  rw [isDecimal, decimalValue?_of_isDigit digit]
  rfl

theorem isDigit_of_mem_toDigits {c : Char} {n : Nat} (inside : c ∈ Nat.toDigits 10 n) :
    c.isDigit = true :=
  Nat.isDigit_of_mem_toDigits (by decide) (by decide) inside

/-- The decimal notation of a natural is read as that natural. -/
theorem decimalNat_toDigits (n : Nat) : decimalNat (Nat.toDigits 10 n) = n :=
  (decimalNat_of_isDigit fun _ => isDigit_of_mem_toDigits).trans Nat.ofDigitChars_ten_toDigits

theorem isDecimal_of_mem_toDigits {c : Char} {n : Nat} (inside : c ∈ Nat.toDigits 10 n) :
    isDecimal c = true :=
  isDecimal_of_isDigit (isDigit_of_mem_toDigits inside)

/-- A run of characters of a class ends in front of the first character outside. -/
theorem span_append {inside : Char → Bool} {run rest : List Char}
    (within : ∀ c ∈ run, inside c = true) (ends : ∀ c ∈ rest.head?, inside c = false) :
    (run ++ rest).takeWhile inside = run ∧ (run ++ rest).dropWhile inside = rest := by
  rw [List.takeWhile_append_of_pos within, List.dropWhile_append_of_pos within]
  cases rest with
  | nil => exact ⟨List.append_nil run, rfl⟩
  | cons c tail => simp [ends c rfl]

end Text

namespace Path

/-! ## Brackets -/

/-- The quote that is open behind a text, if the text holds no closing bracket outside quotes. -/
def quoteAfter : Option Char → List Char → Option (Option Char)
  | openQuote, [] => some openQuote
  | some quote, c :: rest => quoteAfter (if c = quote then none else some quote) rest
  | none, c :: rest =>
    if c = ']' then none else quoteAfter (if c = '\'' || c = '"' then some c else none) rest

theorem quoteAfter_append (openQuote : Option Char) (first second : List Char) :
    quoteAfter openQuote (first ++ second) =
      (quoteAfter openQuote first).bind fun openQuote => quoteAfter openQuote second := by
  induction first generalizing openQuote with
  | nil => cases openQuote <;> rfl
  | cons c rest ih =>
      cases openQuote with
      | some quote => exact ih _
      | none =>
          rw [List.cons_append, quoteAfter, quoteAfter]
          split
          · rfl
          · exact ih _

theorem pushed_eq_some_iff {c : Char} {found : Option (List Char × List Char)}
    {body after : List Char} :
    bracketBody.pushed c found = some (body, after) ↔
      ∃ tail, body = c :: tail ∧ found = some (tail, after) := by
  cases found with
  | none => simp [bracketBody.pushed]
  | some parts =>
      obtain ⟨tail, rest⟩ := parts
      simp only [bracketBody.pushed, Option.map_some, Option.some.injEq, Prod.mk.injEq]
      constructor
      · rintro ⟨rfl, rfl⟩
        exact ⟨tail, rfl, rfl, rfl⟩
      · rintro ⟨_, rfl, rfl, rfl⟩
        exact ⟨rfl, rfl⟩

/-- The body of a bracket ends at the first closing bracket outside quotes. -/
theorem bracketBody_eq_some_iff {openQuote : Option Char} {s body after : List Char} :
    bracketBody openQuote s = some (body, after) ↔
      s = body ++ ']' :: after ∧ quoteAfter openQuote body = some none := by
  induction s generalizing openQuote body with
  | nil => simp [bracketBody]
  | cons c rest ih =>
      cases openQuote with
      | some quote =>
          rw [bracketBody, pushed_eq_some_iff]
          constructor
          · rintro ⟨tail, rfl, found⟩
            obtain ⟨rfl, closed⟩ := ih.mp found
            exact ⟨rfl, closed⟩
          · rintro ⟨split, closed⟩
            cases body with
            | nil => simp [quoteAfter] at closed
            | cons b tail =>
                obtain ⟨rfl, rfl⟩ := List.cons.inj split
                exact ⟨tail, rfl, ih.mpr ⟨rfl, closed⟩⟩
      | none =>
          rw [bracketBody]
          by_cases closing : c = ']'
          · rw [if_pos closing]
            constructor
            · intro found
              cases found
              exact ⟨by rw [closing]; rfl, rfl⟩
            · rintro ⟨split, closed⟩
              cases body with
              | nil =>
                  obtain ⟨-, rfl⟩ := List.cons.inj split
                  rfl
              | cons b tail =>
                  obtain ⟨rfl, -⟩ := List.cons.inj split
                  simp [quoteAfter, closing] at closed
          · rw [if_neg closing, pushed_eq_some_iff]
            constructor
            · rintro ⟨tail, rfl, found⟩
              obtain ⟨rfl, closed⟩ := ih.mp found
              exact ⟨rfl, by rw [quoteAfter, if_neg closing]; exact closed⟩
            · rintro ⟨split, closed⟩
              cases body with
              | nil => exact absurd (List.cons.inj split).1 closing
              | cons b tail =>
                  obtain ⟨rfl, rfl⟩ := List.cons.inj split
                  rw [quoteAfter, if_neg closing] at closed
                  exact ⟨tail, rfl, ih.mpr ⟨rfl, closed⟩⟩

/-! ## Rounds -/

/-- A text that starts with neither a dot nor a bracket starts with a key, which is not empty. -/
theorem length_dropWhile_lt {s : List Char} (nonempty : s = [] → False)
    (noDot : ∀ rest, s = '.' :: rest → False) (noBracket : ∀ rest, s = '[' :: rest → False) :
    (s.dropWhile (!endsKey ·)).length < s.length := by
  cases s with
  | nil => exact (nonempty rfl).elim
  | cons c rest =>
      have inside : endsKey c = false := by
        simp only [endsKey, Bool.or_eq_false_iff, beq_eq_false_iff_ne]
        exact ⟨fun dot => noDot rest (by rw [dot]), fun bracket => noBracket rest (by rw [bracket])⟩
      rw [List.dropWhile_cons_of_pos (by simp [inside])]
      exact Nat.lt_succ_of_le (List.dropWhile_sublist _).length_le

/-- Rounds beyond the length of the text change nothing. -/
theorem readSteps_eq_readSteps {first second : Nat} {s : List Char} (enough : s.length ≤ first)
    (enough' : s.length ≤ second) : readSteps first s = readSteps second s := by
  induction first generalizing second s with
  | zero =>
      obtain rfl := List.length_eq_zero_iff.mp (Nat.le_zero.mp enough)
      cases second <;> rfl
  | succ first ih =>
      cases second with
      | zero =>
          obtain rfl := List.length_eq_zero_iff.mp (Nat.le_zero.mp enough')
          rfl
      | succ second =>
          unfold readSteps
          split
          · rfl
          · exact ih (Nat.le_of_succ_le_succ enough) (Nat.le_of_succ_le_succ enough')
          · rename_i rest
            cases found : bracketBody none rest with
            | none => rfl
            | some parts =>
                obtain ⟨body, after⟩ := parts
                have shorter := congrArg List.length (bracketBody_eq_some_iff.mp found).1
                simp only [List.length_append, List.length_cons] at shorter enough enough'
                simp only
                rw [@ih second _ (by omega) (by omega)]
          · rename_i nonempty noDot noBracket
            have shorter := length_dropWhile_lt nonempty noDot noBracket
            simp only
            rw [@ih second _ (by omega) (by omega)]

/-- The steps of a text, in as many rounds as it needs. -/
def steps (s : List Char) : Except Fault Path := readSteps s.length s

theorem readSteps_eq_steps {fuel : Nat} {s : List Char} (enough : s.length ≤ fuel) :
    readSteps fuel s = steps s :=
  readSteps_eq_readSteps enough (Nat.le_refl _)

@[simp] theorem steps_dot (rest : List Char) : steps ('.' :: rest) = steps rest := rfl

theorem steps_bracket (rest : List Char) :
    steps ('[' :: rest) =
      match bracketBody none rest with
      | none => .error .unclosedBracket
      | some (body, after) =>
        match bracketStep body with
        | .error fault => .error fault
        | .ok step => (steps after).map (step :: ·) := by
  rw [steps, List.length_cons, readSteps]
  cases found : bracketBody none rest with
  | none => rfl
  | some parts =>
      obtain ⟨body, after⟩ := parts
      have shorter := congrArg List.length (bracketBody_eq_some_iff.mp found).1
      simp only [List.length_append, List.length_cons] at shorter
      have later := @readSteps_eq_steps rest.length after (by omega)
      cases means : bracketStep body with
      | error fault => simp only [means]
      | ok step => simp only [means, later]

/-- A key behind a dot ends at the next dot or bracket. -/
theorem steps_key {key rest : List Char} (nonempty : key ≠ [])
    (inside : ∀ c ∈ key, endsKey c = false) (ends : ∀ c ∈ rest.head?, endsKey c = true) :
    steps (key ++ rest) = (steps rest).map (.key (String.ofList key) :: ·) := by
  obtain ⟨taken, dropped⟩ := @Text.span_append (!endsKey ·) key rest
    (fun c found => by simp [inside c found]) (fun c first => by simp [ends c first])
  cases key with
  | nil => exact absurd rfl nonempty
  | cons c tail =>
      have character := inside c List.mem_cons_self
      rw [steps, List.cons_append, List.length_cons, readSteps]
      · rw [← List.cons_append, taken, dropped, readSteps_eq_steps (by simp)]
      · exact fun empty => List.cons_ne_nil _ _ empty
      · intro rest starts
        rw [(List.cons.inj starts).1] at character
        cases character
      · intro rest starts
        rw [(List.cons.inj starts).1] at character
        cases character

/-! ## Single steps -/

theorem unquote?_eq_some_iff {body inner : List Char} :
    unquote? body = some inner ↔
      ∃ quote, (quote = '\'' ∨ quote = '"') ∧ body = quote :: (inner ++ [quote]) := by
  cases body with
  | nil => simp [unquote?]
  | cons quote rest =>
      simp only [unquote?, Option.ite_none_right_eq_some, Option.some.injEq, Bool.and_eq_true,
        Bool.or_eq_true, decide_eq_true_eq]
      constructor
      · rintro ⟨⟨isQuote, last⟩, rfl⟩
        obtain ⟨inner, rfl⟩ := List.getLast?_eq_some_iff.mp last
        exact ⟨quote, isQuote, by rw [List.dropLast_concat]⟩
      · rintro ⟨_, isQuote, split⟩
        obtain ⟨rfl, rfl⟩ := List.cons.inj split
        exact ⟨⟨isQuote, by simp⟩, by simp⟩

/-- A bracket means a key exactly if it holds that key between two equal quotes. -/
theorem bracketStep_eq_key_iff {body : List Char} {name : String} :
    bracketStep body = .ok (.key name) ↔
      ∃ quote, (quote = '\'' ∨ quote = '"') ∧ body = quote :: (name.toList ++ [quote]) := by
  rw [← unquote?_eq_some_iff]
  unfold bracketStep
  split
  · rename_i digits
    have noKey : unquote? body ≠ some name.toList := by
      intro quoted
      obtain ⟨quote, isQuote, rfl⟩ := unquote?_eq_some_iff.mp quoted
      have quoteDigit : Text.isDigitLike quote = true := by
        simp only [Bool.and_eq_true, List.all_eq_true] at digits
        exact digits.2 quote List.mem_cons_self
      have noDigit : Text.isDigitLike '\'' = false ∧ Text.isDigitLike '"' = false := by
        decide +kernel
      rcases isQuote with rfl | rfl
      · rw [noDigit.1] at quoteDigit
        cases quoteDigit
      · rw [noDigit.2] at quoteDigit
        cases quoteDigit
    refine iff_of_false ?_ noKey
    split <;> simp
  · cases quoted : unquote? body with
    | none => simp
    | some inner =>
        simp only [Except.ok.injEq, Segment.key.injEq, Option.some.injEq]
        exact ⟨fun same => by rw [← same, String.toList_ofList],
          fun same => by rw [same, String.ofList_toList]⟩

theorem keyQuote_eq (name : String) : keyQuote name = '\'' ∨ keyQuote name = '"' := by
  unfold keyQuote
  split
  · exact Or.inr rfl
  · exact Or.inl rfl

/-- A quoted key is closed by the last quote exactly if the first one is still open there. -/
theorem quoteAfter_quoted {quote : Char} (isQuote : quote = '\'' ∨ quote = '"') (key : List Char) :
    quoteAfter none (quote :: (key ++ [quote])) = some none ↔
      quoteAfter (some quote) key = some (some quote) := by
  have opened : quoteAfter none (quote :: (key ++ [quote])) =
      quoteAfter (some quote) (key ++ [quote]) := by
    rcases isQuote with rfl | rfl <;> rfl
  rw [opened, quoteAfter_append]
  cases inside : quoteAfter (some quote) key with
  | none => simp
  | some last =>
      cases last with
      | none => rcases isQuote with rfl | rfl <;> simp [quoteAfter]
      | some other => by_cases same : quote = other <;> simp [quoteAfter, same, Ne.symm]

/-- Whether a key is read back from where it stands in a path. -/
def isReadableKey (name : String) : Bool :=
  isPlainKey name || quoteAfter (some (keyQuote name)) name.toList == some (some (keyQuote name))

/-- Both quotes have to occur in a key for it to be lost. -/
theorem isReadableKey_of_single_quotes {name : String}
    (single : '\'' ∉ name.toList ∨ '"' ∉ name.toList) : isReadableKey name = true := by
  have stays (quote : Char) (text : List Char) (absent : quote ∉ text) :
      quoteAfter (some quote) text = some (some quote) := by
    induction text with
    | nil => rfl
    | cons c rest ih =>
        rw [List.mem_cons, not_or] at absent
        rw [quoteAfter, if_neg (Ne.symm absent.1)]
        exact ih absent.2
  have absent : keyQuote name ∉ name.toList := by
    unfold keyQuote
    split
    · rename_i present
      exact single.resolve_left (not_not_intro (List.contains_iff_mem.mp present))
    · rename_i missing
      exact fun present => missing (List.contains_iff_mem.mpr present)
  simp [isReadableKey, stays _ _ absent]

theorem isPlainKey_eq_true_iff {name : String} :
    isPlainKey name = true ↔ name.toList ≠ [] ∧ ∀ c ∈ name.toList, isReserved c = false := by
  simp [isPlainKey]

theorem endsKey_of_isReserved {c : Char} (free : isReserved c = false) : endsKey c = false := by
  simp only [isReserved, Bool.or_eq_false_iff] at free
  simp [endsKey, free.1.1.1.1, free.1.1.1.2]

/-- The body that brackets enclose is read as one step. -/
theorem steps_of_bracketStep {body : List Char} {step : Segment}
    (closed : quoteAfter none body = some none) (means : bracketStep body = .ok step)
    (rest : List Char) :
    steps ('[' :: (body ++ ']' :: rest)) = (steps rest).map (step :: ·) := by
  have found := (@bracketBody_eq_some_iff none (body ++ ']' :: rest) body rest).mpr ⟨rfl, closed⟩
  rw [steps_bracket, found]
  simp only [means]

theorem quoteAfter_of_isDigit {text : List Char} (digits : ∀ c ∈ text, c.isDigit = true) :
    quoteAfter none text = some none := by
  induction text with
  | nil => rfl
  | cons c rest ih =>
      have digit := digits c List.mem_cons_self
      have other (d : Char) (noDigit : d.isDigit = false) : c ≠ d := by
        rintro rfl
        rw [digit] at noDigit
        cases noDigit
      rw [quoteAfter, if_neg (other _ rfl), if_neg (by simp [other '\'' rfl, other '"' rfl])]
      exact ih fun c inside => digits c (List.mem_cons_of_mem _ inside)

theorem steps_index (n : Nat) (rest : List Char) :
    steps (stepText (.index n) ++ rest) = (steps rest).map (.index n :: ·) := by
  have digits : ∀ c ∈ Nat.toDigits 10 n, c.isDigit = true := fun c inside =>
    Nat.isDigit_of_mem_toDigits (by decide) (by decide) inside
  have decimal : (Nat.toDigits 10 n).all Text.isDecimal = true :=
    List.all_eq_true.mpr fun c inside => Text.isDecimal_of_mem_toDigits inside
  have digitLike : (Nat.toDigits 10 n).all Text.isDigitLike = true :=
    List.all_eq_true.mpr fun c inside => by
      simp [Text.isDigitLike, Text.isDecimal_of_mem_toDigits inside]
  have means : bracketStep (Nat.toDigits 10 n) = .ok (.index n) := by
    rw [bracketStep, if_pos (by simp [digitLike, Nat.toDigits_ne_nil]), if_pos decimal,
      Text.decimalNat_toDigits]
  have spelled : stepText (.index n) ++ rest = '[' :: (Nat.toDigits 10 n ++ ']' :: rest) := by
    have shown : (toString (n : Int)).toList = Nat.toDigits 10 n := Nat.toList_repr
    simp only [stepText, shown, List.cons_append, List.append_assoc, List.nil_append]
  rw [spelled]
  exact steps_of_bracketStep (quoteAfter_of_isDigit digits) means rest

theorem steps_plainKey {name : String} (plain : isPlainKey name = true) {rest : List Char}
    (ends : ∀ c ∈ rest.head?, endsKey c = true) :
    steps (name.toList ++ rest) = (steps rest).map (.key name :: ·) := by
  obtain ⟨nonempty, free⟩ := isPlainKey_eq_true_iff.mp plain
  rw [steps_key nonempty (fun c inside => endsKey_of_isReserved (free c inside)) ends,
    String.ofList_toList]

theorem stepText_plainKey {name : String} (plain : isPlainKey name = true) :
    stepText (.key name) = '.' :: name.toList :=
  if_pos plain

theorem stepText_quotedKey {name : String} (quoted : isPlainKey name = false) (rest : List Char) :
    stepText (.key name) ++ rest =
      '[' :: ((keyQuote name :: (name.toList ++ [keyQuote name])) ++ ']' :: rest) := by
  simp [stepText, quoted]

theorem steps_readableKey {name : String} (readable : isReadableKey name = true) {rest : List Char}
    (ends : ∀ c ∈ rest.head?, endsKey c = true) :
    steps (stepText (.key name) ++ rest) = (steps rest).map (.key name :: ·) := by
  cases plain : isPlainKey name with
  | true =>
      rw [stepText_plainKey plain, List.cons_append, steps_dot]
      exact steps_plainKey plain ends
  | false =>
      rw [isReadableKey, plain, Bool.false_or, beq_iff_eq] at readable
      rw [stepText_quotedKey plain]
      exact steps_of_bracketStep ((quoteAfter_quoted (keyQuote_eq name) _).mpr readable)
        (bracketStep_eq_key_iff.mpr ⟨_, keyQuote_eq name, rfl⟩) rest

/-- A key that is not readable is read as something else. -/
theorem isReadableKey_of_steps {name : String} {rest : List Char} {path : Path}
    (read : steps (stepText (.key name) ++ rest) = .ok (.key name :: path)) :
    isReadableKey name = true := by
  cases plain : isPlainKey name with
  | true => simp [isReadableKey, plain]
  | false =>
      rw [stepText_quotedKey plain, steps_bracket] at read
      split at read
      · cases read
      · rename_i body after found
        split at read
        · cases read
        · rename_i step means
          have same : step = .key name := by
            cases behind : steps after with
            | error fault =>
                rw [behind] at read
                cases read
            | ok more =>
                rw [behind] at read
                cases read
                rfl
          rw [same] at means
          obtain ⟨quote, isQuote, rfl⟩ := bracketStep_eq_key_iff.mp means
          obtain ⟨split, closed⟩ := bracketBody_eq_some_iff.mp found
          obtain ⟨sameQuote, -⟩ := List.cons.inj split
          rw [← sameQuote] at closed
          have stays := (quoteAfter_quoted (keyQuote_eq name) _).mp closed
          simp [isReadableKey, stays]

/-! ## Whole paths -/

/-- No index of the path is negative. -/
def IsNatural (path : Path) : Prop := ∀ i, .index i ∈ path → 0 ≤ i

/-- Every key of the path is read back. -/
def IsReadable (path : Path) : Prop := ∀ name, .key name ∈ path → isReadableKey name = true

/-- The spelling without `$` starts with a `$` that belongs to the first key. -/
def StartsWithDollar (path : Path) : Prop :=
  ∃ name rest, path = .key name :: rest ∧ isPlainKey name = true ∧ name.toList.head? = some '$'

theorem IsNatural.tail {step : Segment} {path : Path} (natural : IsNatural (step :: path)) :
    IsNatural path :=
  fun i inside => natural i (List.mem_cons_of_mem _ inside)

theorem IsReadable.tail {step : Segment} {path : Path} (readable : IsReadable (step :: path)) :
    IsReadable path :=
  fun name inside => readable name (List.mem_cons_of_mem _ inside)

/-- A step ends whatever key is in front of it. -/
theorem endsKey_of_head?_stepsText (path : Path) :
    ∀ c ∈ (stepsText path).head?, endsKey c = true := by
  cases path with
  | nil => simp [stepsText]
  | cons step rest =>
      intro c first
      cases step with
      | index i =>
          obtain rfl : '[' = c := by simpa [stepsText, stepText] using first
          rfl
      | key name =>
          cases plain : isPlainKey name with
          | true =>
              obtain rfl : '.' = c := by simpa [stepsText, stepText, plain] using first
              rfl
          | false =>
              obtain rfl : '[' = c := by simpa [stepsText, stepText, plain] using first
              rfl

theorem map_cons_eq_ok_iff {read : Except Fault Path} {step : Segment} {path : Path} :
    read.map (step :: ·) = .ok (step :: path) ↔ read = .ok path := by
  cases read <;> simp [Except.map]

/-- The steps of a path are read back exactly if all its keys are. -/
theorem steps_stepsText_iff {path : Path} (natural : IsNatural path) :
    steps (stepsText path) = .ok path ↔ IsReadable path := by
  induction path with
  | nil => exact iff_of_true rfl (by simp [IsReadable])
  | cons step rest ih =>
      have ends := endsKey_of_head?_stepsText rest
      have spelled : stepsText (step :: rest) = stepText step ++ stepsText rest := rfl
      have later := ih natural.tail
      rw [spelled]
      cases step with
      | index i =>
          obtain ⟨n, rfl⟩ := Int.eq_ofNat_of_zero_le (natural i List.mem_cons_self)
          rw [steps_index, map_cons_eq_ok_iff, later]
          simp [IsReadable]
      | key name =>
          cases readable : isReadableKey name with
          | true =>
              rw [steps_readableKey readable ends, map_cons_eq_ok_iff, later]
              simp [IsReadable, readable]
          | false =>
              refine iff_of_false (fun read => ?_) fun all => ?_
              · rw [isReadableKey_of_steps read] at readable
                cases readable
              · rw [all name List.mem_cons_self] at readable
                cases readable

theorem read_rooted (path : Path) : read path.rooted = steps (stepsText path) := by
  simp [read, rooted, withoutRoot, steps]

/-- The rooted spelling of a path is read back exactly if all keys are. -/
theorem read_rooted_iff {path : Path} (natural : IsNatural path) :
    read path.rooted = .ok path ↔ IsReadable path := by
  rw [read_rooted, steps_stepsText_iff natural]

theorem canonical_plainKey {name : String} (plain : isPlainKey name = true) (rest : Path) :
    canonical (.key name :: rest) = String.ofList (name.toList ++ stepsText rest) := by
  simp [canonical, stepsText, stepText, plain]

/-- Unless the first key starts with `$`, both spellings are read alike. -/
theorem read_canonical_of_not {path : Path} (noDollar : ¬ StartsWithDollar path) :
    read path.canonical = read path.rooted := by
  rw [read_rooted]
  cases path with
  | nil => rfl
  | cons step rest =>
      cases step with
      | index i => simp [read, canonical, stepsText, stepText, withoutRoot, steps]
      | key name =>
          cases plain : isPlainKey name with
          | false => simp [read, canonical, stepsText, stepText, plain, withoutRoot, steps]
          | true =>
              have spelled :
                  stepsText (.key name :: rest) = '.' :: (name.toList ++ stepsText rest) := by
                simp [stepsText, stepText, plain]
              rw [canonical_plainKey plain, spelled, steps_dot, read, String.toList_ofList]
              have kept : withoutRoot (name.toList ++ stepsText rest) =
                  name.toList ++ stepsText rest := by
                unfold withoutRoot
                split
                · rename_i tail starts
                  refine absurd ⟨name, rest, rfl, plain, ?_⟩ noDollar
                  cases chars : name.toList with
                  | nil => exact absurd chars (isPlainKey_eq_true_iff.mp plain).1
                  | cons c more =>
                      rw [chars, List.cons_append] at starts
                      rw [(List.cons.inj starts).1]
                      rfl
                · rfl
              rw [kept]
              rfl

/-- A `$` that belongs to the first key is taken for the root. -/
theorem read_canonical_ne {path : Path} (natural : IsNatural path) (readable : IsReadable path)
    (dollar : StartsWithDollar path) : read path.canonical ≠ .ok path := by
  obtain ⟨name, rest, rfl, plain, first⟩ := dollar
  have later := (steps_stepsText_iff natural.tail).mpr readable.tail
  obtain ⟨-, free⟩ := isPlainKey_eq_true_iff.mp plain
  cases chars : name.toList with
  | nil =>
      rw [chars] at first
      cases first
  | cons c tail =>
      rw [chars] at first free
      cases first
      have shortened : read (canonical (.key name :: rest)) = steps (tail ++ stepsText rest) := by
        rw [canonical_plainKey plain, read, String.toList_ofList, chars]
        rfl
      rw [shortened]
      by_cases alone : tail = []
      · rw [alone, List.nil_append, later]
        intro same
        have longer := congrArg List.length (Except.ok.inj same)
        simp at longer
      · have ends := endsKey_of_head?_stepsText rest
        have inside : ∀ c ∈ tail, endsKey c = false := fun c found =>
          endsKey_of_isReserved (free c (List.mem_cons_of_mem _ found))
        rw [steps_key alone inside ends, later]
        intro same
        have sameName : String.ofList tail = name :=
          Segment.key.inj (List.cons.inj (Except.ok.inj same)).1
        have longer := congrArg (fun s : String => s.toList.length) sameName
        simp [chars] at longer

/-- Both spellings of a path are read back exactly if all keys are and the first one does not start
with `$`. -/
theorem read_both_iff {path : Path} (natural : IsNatural path) :
    read path.canonical = .ok path ∧ read path.rooted = .ok path ↔
      IsReadable path ∧ ¬ StartsWithDollar path := by
  rw [read_rooted_iff natural]
  constructor
  · rintro ⟨shortRead, readable⟩
    exact ⟨readable, fun dollar => read_canonical_ne natural readable dollar shortRead⟩
  · rintro ⟨readable, noDollar⟩
    have read := (read_rooted_iff natural).mpr readable
    exact ⟨(read_canonical_of_not noDollar).trans read, readable⟩

/-- Where no key holds both quotes, the rooted spelling is always read back, and the spelling
without `$` is unless the first key is written without quotes and starts with `$`. -/
theorem read_spellings_of_single_quotes {path : Path} (natural : IsNatural path)
    (single : ∀ name, .key name ∈ path → '\'' ∉ name.toList ∨ '"' ∉ name.toList) :
    read path.rooted = .ok path ∧ (read path.canonical = .ok path ↔ ¬ StartsWithDollar path) := by
  have readable : IsReadable path := fun name inside =>
    isReadableKey_of_single_quotes (single name inside)
  have rootedRead := (read_rooted_iff natural).mpr readable
  refine ⟨rootedRead, ?_, ?_⟩
  · intro shortRead dollar
    exact read_canonical_ne natural readable dollar shortRead
  · intro noDollar
    exact (read_canonical_of_not noDollar).trans rootedRead

/-- A path whose first key starts with `$`, with a quoted, an empty and a dotted key behind it. -/
def awkward : Path := [.key "$ref", .key "it's [1]", .index 20, .key "", .key "a.b"]

/-- All its keys are read back behind `$`, but its own `$` is taken for the root. -/
theorem read_awkward :
    IsNatural awkward ∧
      (∀ name, .key name ∈ awkward → '\'' ∉ name.toList ∨ '"' ∉ name.toList) ∧
      read awkward.rooted = .ok awkward ∧ read awkward.canonical ≠ .ok awkward := by
  have natural : IsNatural awkward := by simp [IsNatural, awkward]
  have single : ∀ name, .key name ∈ awkward → '\'' ∉ name.toList ∨ '"' ∉ name.toList := by
    have checked : ∀ name ∈ ["$ref", "it's [1]", "", "a.b"],
        '\'' ∉ name.toList ∨ '"' ∉ name.toList := by decide +kernel
    intro name inside
    exact checked name (by simpa [awkward] using inside)
  have dollar : StartsWithDollar awkward :=
    ⟨"$ref", _, rfl, by decide +kernel, by decide +kernel⟩
  obtain ⟨rootedRead, shortRead⟩ := read_spellings_of_single_quotes natural single
  exact ⟨natural, single, rootedRead, fun read => shortRead.mp read dollar⟩

end Path

end JsonSeek
