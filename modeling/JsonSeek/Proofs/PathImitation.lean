import JsonSeek.Proofs.Reachability
import JsonSeek.Prune

/-!
# Paths that are spelled alike

A quoted key stands between its quotes as it is. A key that holds a single quote is put between
double quotes, and nothing in it tells a closing quote from one that belongs to the key. So a key
can spell out the end of another key together with steps behind it, and then two paths share one
spelling. This is the only way in which they can (`rooted_eq_rooted_iff`).
-/

namespace JsonSeek

namespace Path

/-! ## Where a step ends -/

/-- Where a run of characters of a class ends is settled by the whole text. -/
theorem append_run_inj {inside : Char → Bool} {first second firstRest secondRest : List Char}
    (within : ∀ c ∈ first, inside c = true) (ends : ∀ c ∈ firstRest.head?, inside c = false)
    (withinToo : ∀ c ∈ second, inside c = true)
    (endsToo : ∀ c ∈ secondRest.head?, inside c = false)
    (same : first ++ firstRest = second ++ secondRest) :
    first = second ∧ firstRest = secondRest := by
  obtain ⟨taken, dropped⟩ := Text.span_append within ends
  obtain ⟨takenToo, droppedToo⟩ := Text.span_append withinToo endsToo
  rw [same, takenToo] at taken
  rw [same, droppedToo] at dropped
  exact ⟨taken.symm, dropped.symm⟩

/-- A delimiter that both texts lack splits in one way only. -/
theorem append_delimiter_inj {delimiter : Char} {first second firstRest secondRest : List Char}
    (firstLacks : delimiter ∉ first) (secondLacks : delimiter ∉ second)
    (same : first ++ delimiter :: firstRest = second ++ delimiter :: secondRest) :
    first = second ∧ firstRest = secondRest := by
  have within {text : List Char} (lacks : delimiter ∉ text) :
      ∀ c ∈ text, (c != delimiter) = true :=
    fun c inside => bne_iff_ne.mpr fun is => lacks (is ▸ inside)
  have ends (rest : List Char) :
      ∀ c ∈ (delimiter :: rest).head?, (c != delimiter) = false := by simp
  obtain ⟨texts, rests⟩ := append_run_inj (within firstLacks) (ends firstRest)
    (within secondLacks) (ends secondRest) same
  exact ⟨texts, (List.cons.inj rests).2⟩

theorem toList_toString_index (i : Int) :
    (toString i).toList =
      if 0 ≤ i then Nat.toDigits 10 i.toNat else '-' :: Nat.toDigits 10 (-i).toNat := by
  have shown : toString i = i.repr := rfl
  rw [shown, Int.repr_eq_if]
  split
  · exact Nat.toList_repr
  · rw [String.toList_append, Nat.toList_repr]
    rfl

theorem isDigit_of_mem_index {i : Int} {c : Char} (inside : c ∈ (toString i).toList) :
    c.isDigit = true ∨ c = '-' := by
  rw [toList_toString_index] at inside
  split at inside
  · exact Or.inl (Text.isDigit_of_mem_toDigits inside)
  · exact (List.mem_cons.mp inside).symm.imp Text.isDigit_of_mem_toDigits id

theorem index_toString_inj {i j : Int} (same : (toString i).toList = (toString j).toList) :
    i = j := by
  have digits {m n : Nat} (same : Nat.toDigits 10 m = Nat.toDigits 10 n) : m = n := by
    rw [← Text.decimalNat_toDigits m, same, Text.decimalNat_toDigits]
  have noSign {n : Nat} {rest : List Char} : Nat.toDigits 10 n ≠ '-' :: rest := fun signed =>
    absurd (Text.isDigit_of_mem_toDigits (signed ▸ List.mem_cons_self)) (by decide)
  rw [toList_toString_index, toList_toString_index] at same
  split at same <;> split at same
  · have := digits same
    omega
  · exact absurd same noSign
  · exact absurd same.symm noSign
  · have := digits (List.cons.inj same).2
    omega

/-! ## Imitation -/

/-- A key goes on where a shorter key is closed, and spells out that end as well as what follows.
The shorter key holds a single quote, so that double quotes stand around both. -/
def Swallows (long : String) (longRest : List Char) (short : String) (shortRest : List Char) :
    Prop :=
  '\'' ∈ short.toList ∧ ∃ more, long.toList = short.toList ++ '"' :: ']' :: more ∧
    shortRest = more ++ '"' :: ']' :: longRest

/-- A path imitates another one: they part where a key of the first swallows a key of the second
together with steps behind it. -/
def Imitates (path other : Path) : Prop :=
  ∃ before long rest short otherRest, path = before ++ .key long :: rest ∧
    other = before ++ .key short :: otherRest ∧
    Swallows long (stepsText rest) short (stepsText otherRest)

theorem Imitates.cons {path other : Path} (imitates : path.Imitates other) (step : Segment) :
    Imitates (step :: path) (step :: other) := by
  obtain ⟨before, long, rest, short, otherRest, rfl, rfl, swallows⟩ := imitates
  exact ⟨step :: before, long, rest, short, otherRest, rfl, rfl, swallows⟩

theorem keyQuote_of_mem {name : String} (single : '\'' ∈ name.toList) : keyQuote name = '"' :=
  if_pos (List.contains_iff_mem.mpr single)

theorem keyQuote_of_notMem {name : String} (noSingle : '\'' ∉ name.toList) :
    keyQuote name = '\'' :=
  if_neg (noSingle ∘ List.contains_iff_mem.mp)

theorem stepText_quotedKey_append {name : String} (quoted : isPlainKey name = false)
    (rest : List Char) :
    stepText (.key name) ++ rest =
      '[' :: keyQuote name :: (name.toList ++ keyQuote name :: ']' :: rest) := by
  rw [stepText_quotedKey quoted]
  simp

theorem stepText_of_single_quote {name : String} (single : '\'' ∈ name.toList) (rest : List Char) :
    stepText (.key name) ++ rest = '[' :: '"' :: (name.toList ++ '"' :: ']' :: rest) := by
  have quoted : isPlainKey name = false := by
    rw [Bool.eq_false_iff, Ne, isPlainKey_eq_true_iff]
    exact fun plain => absurd (plain.2 _ single) (by decide)
  rw [stepText_quotedKey_append quoted, keyQuote_of_mem single]

/-- A path that imitates another one is spelled like it. -/
theorem Imitates.stepsText_eq {path other : Path} (imitates : path.Imitates other) :
    stepsText path = stepsText other := by
  obtain ⟨before, long, rest, short, otherRest, rfl, rfl, single, more, longer, follows⟩ := imitates
  have longSingle : '\'' ∈ long.toList := longer ▸ List.mem_append_left _ single
  have spelled (name : String) (steps : Path) :
      stepsText (before ++ .key name :: steps) =
        stepsText before ++ (stepText (.key name) ++ stepsText steps) := by
    simp [stepsText]
  rw [spelled, spelled, stepText_of_single_quote longSingle, stepText_of_single_quote single,
    longer, follows]
  simp only [List.append_assoc, List.cons_append]

/-! ## Steps that are spelled alike -/

section Steps

variable {firstRest secondRest : List Char}

theorem stepText_index_append (i : Int) (rest : List Char) :
    stepText (.index i) ++ rest = '[' :: ((toString i).toList ++ ']' :: rest) := by
  simp [stepText]

theorem stepText_index_ne_key {i : Int} {name : String} :
    stepText (.index i) ++ firstRest ≠ stepText (.key name) ++ secondRest := by
  rw [stepText_index_append]
  cases plain : isPlainKey name with
  | true =>
      rw [stepText_plainKey plain]
      exact fun same => absurd (List.cons.inj same).1 (by decide)
  | false =>
      rw [stepText_quotedKey_append plain]
      intro same
      have starts := (List.cons.inj same).2
      have quote :
          ¬ (keyQuote name).isDigit = true ∧ keyQuote name ≠ '-' ∧ keyQuote name ≠ ']' := by
        rcases keyQuote_eq name with is | is <;> rw [is] <;> decide
      cases digits : (toString i).toList with
      | nil =>
          rw [digits] at starts
          exact quote.2.2 (List.cons.inj starts).1.symm
      | cons c more =>
          rw [digits] at starts
          have first := (List.cons.inj starts).1
          have digit := @isDigit_of_mem_index i c (digits ▸ List.mem_cons_self)
          rw [first] at digit
          exact digit.elim quote.1 quote.2.1

theorem stepText_plainKey_ne {plain quoted : String} (isPlain : isPlainKey plain = true)
    (isQuoted : isPlainKey quoted = false) :
    stepText (.key plain) ++ firstRest ≠ stepText (.key quoted) ++ secondRest := by
  rw [stepText_plainKey isPlain, stepText_quotedKey_append isQuoted]
  exact fun same => absurd (List.cons.inj same).1 (by decide)

theorem plainKey_inj {first second : String} (isPlain : isPlainKey first = true)
    (isPlainToo : isPlainKey second = true) (ends : ∀ c ∈ firstRest.head?, endsKey c = true)
    (endsToo : ∀ c ∈ secondRest.head?, endsKey c = true)
    (same : stepText (.key first) ++ firstRest = stepText (.key second) ++ secondRest) :
    first = second ∧ firstRest = secondRest := by
  have within {name : String} (plain : isPlainKey name = true) :
      ∀ c ∈ name.toList, (!endsKey c) = true := by
    intro c inside
    rw [endsKey_of_isReserved ((isPlainKey_eq_true_iff.mp plain).2 c inside), Bool.not_false]
  have stops {rest : List Char} (ends : ∀ c ∈ rest.head?, endsKey c = true) :
      ∀ c ∈ rest.head?, (!endsKey c) = false := by
    intro c head
    rw [ends c head, Bool.not_true]
  rw [stepText_plainKey isPlain, stepText_plainKey isPlainToo] at same
  obtain ⟨names, rests⟩ := append_run_inj (within isPlain) (stops ends) (within isPlainToo)
    (stops endsToo) (List.cons.inj same).2
  exact ⟨String.toList_inj.mp names, rests⟩

/-- Of two keys between double quotes the longer one swallows what follows the shorter one. -/
theorem swallows_of_append {short long : String} {more : List Char} (single : '\'' ∈ short.toList)
    (longer : long.toList = short.toList ++ more)
    (same : '"' :: ']' :: firstRest = more ++ '"' :: ']' :: secondRest) :
    (long = short ∧ firstRest = secondRest) ∨ Swallows long secondRest short firstRest := by
  cases more with
  | nil =>
      rw [List.append_nil, String.toList_inj] at longer
      exact Or.inl ⟨longer, by simpa using same⟩
  | cons c tail =>
      simp only [List.cons_append, List.cons.injEq] at same
      obtain ⟨rfl, same⟩ := same
      cases tail with
      | nil => exact absurd (List.cons.inj same).1 (by decide)
      | cons d tail =>
          simp only [List.cons_append, List.cons.injEq] at same
          obtain ⟨rfl, same⟩ := same
          exact Or.inr ⟨single, tail, longer, same⟩

theorem quotedKey_inj_or_swallows {first second : String} (isQuoted : isPlainKey first = false)
    (isQuotedToo : isPlainKey second = false)
    (same : stepText (.key first) ++ firstRest = stepText (.key second) ++ secondRest) :
    (first = second ∧ firstRest = secondRest) ∨
      Swallows first firstRest second secondRest ∨ Swallows second secondRest first firstRest := by
  rw [stepText_quotedKey_append isQuoted, stepText_quotedKey_append isQuotedToo] at same
  obtain ⟨sameQuote, names⟩ := List.cons.inj (List.cons.inj same).2
  by_cases single : '\'' ∈ first.toList
  · have quote := keyQuote_of_mem single
    have singleToo : '\'' ∈ second.toList := by
      by_contra noSingle
      rw [quote, keyQuote_of_notMem noSingle] at sameQuote
      exact absurd sameQuote (by decide)
    rw [quote, keyQuote_of_mem singleToo] at names
    rcases List.append_eq_append_iff.mp names with ⟨more, longer, ends⟩ | ⟨more, longer, ends⟩
    · rcases swallows_of_append single longer ends with ⟨rfl, rests⟩ | swallows
      · exact Or.inl ⟨rfl, rests⟩
      · exact Or.inr (Or.inr swallows)
    · rcases swallows_of_append singleToo longer ends with ⟨rfl, rests⟩ | swallows
      · exact Or.inl ⟨rfl, rests.symm⟩
      · exact Or.inr (Or.inl swallows)
  · have noSingle : '\'' ∉ second.toList := by
      intro singleToo
      rw [keyQuote_of_notMem single, keyQuote_of_mem singleToo] at sameQuote
      exact absurd sameQuote (by decide)
    rw [keyQuote_of_notMem single, keyQuote_of_notMem noSingle] at names
    obtain ⟨name, rests⟩ := append_delimiter_inj single noSingle names
    exact Or.inl ⟨String.toList_inj.mp name, (List.cons.inj rests).2⟩

/-- Texts that start with a step each are different unless the steps and what follows are the same
or a key swallows another one. -/
theorem step_inj_or_swallows {step other : Segment} (ends : ∀ c ∈ firstRest.head?, endsKey c = true)
    (endsToo : ∀ c ∈ secondRest.head?, endsKey c = true)
    (same : stepText step ++ firstRest = stepText other ++ secondRest) :
    (step = other ∧ firstRest = secondRest) ∨ ∃ first second, step = .key first ∧
      other = .key second ∧ (Swallows first firstRest second secondRest ∨
        Swallows second secondRest first firstRest) := by
  cases step with
  | index i =>
      cases other with
      | index j =>
          rw [stepText_index_append, stepText_index_append] at same
          have noBracket (i : Int) : ']' ∉ (toString i).toList := fun inside =>
            absurd (isDigit_of_mem_index inside) (by decide)
          obtain ⟨indices, rests⟩ :=
            append_delimiter_inj (noBracket i) (noBracket j) (List.cons.inj same).2
          exact Or.inl ⟨congrArg Segment.index (index_toString_inj indices), rests⟩
      | key second => exact absurd same stepText_index_ne_key
  | key first =>
      cases other with
      | index j => exact absurd same.symm stepText_index_ne_key
      | key second =>
          cases plain : isPlainKey first with
          | true =>
              cases plainToo : isPlainKey second with
              | true =>
                  obtain ⟨rfl, rests⟩ := plainKey_inj plain plainToo ends endsToo same
                  exact Or.inl ⟨rfl, rests⟩
              | false => exact absurd same (stepText_plainKey_ne plain plainToo)
          | false =>
              cases plainToo : isPlainKey second with
              | true => exact absurd same.symm (stepText_plainKey_ne plainToo plain)
              | false =>
                  rcases quotedKey_inj_or_swallows plain plainToo same with ⟨rfl, rests⟩ | swallows
                  · exact Or.inl ⟨rfl, rests⟩
                  · exact Or.inr ⟨first, second, rfl, rfl, swallows⟩

end Steps

/-! ## Whole paths -/

theorem stepsText_cons_ne_nil (step : Segment) (rest : Path) : stepsText (step :: rest) ≠ [] := by
  cases step with
  | index i => simp [stepsText, stepText]
  | key name => cases plain : isPlainKey name <;> simp [stepsText, stepText, plain]

theorem eq_or_imitates_of_stepsText_eq {path other : Path}
    (same : stepsText path = stepsText other) :
    path = other ∨ path.Imitates other ∨ other.Imitates path := by
  induction path generalizing other with
  | nil =>
      cases other with
      | nil => exact Or.inl rfl
      | cons step rest => exact absurd same.symm (stepsText_cons_ne_nil step rest)
  | cons step rest ih =>
      cases other with
      | nil => exact absurd same (stepsText_cons_ne_nil step rest)
      | cons otherStep otherRest =>
          rcases step_inj_or_swallows (endsKey_of_head?_stepsText rest)
              (endsKey_of_head?_stepsText otherRest) same with
            ⟨rfl, rests⟩ | ⟨first, second, rfl, rfl, swallows⟩
          -- The first steps agree, so the paths part later or not at all.
          · rcases ih rests with rfl | imitates | imitates
            · exact Or.inl rfl
            · exact Or.inr (Or.inl (imitates.cons step))
            · exact Or.inr (Or.inr (imitates.cons step))
          -- The paths part here.
          · rcases swallows with swallows | swallows
            · exact Or.inr (Or.inl ⟨[], first, rest, second, otherRest, rfl, rfl, swallows⟩)
            · exact Or.inr (Or.inr ⟨[], second, otherRest, first, rest, rfl, rfl, swallows⟩)

/-- Two different paths are spelled alike exactly if one of them imitates the other. -/
theorem rooted_eq_rooted_iff {path other : Path} :
    path.rooted = other.rooted ↔ path = other ∨ path.Imitates other ∨ other.Imitates path := by
  have spelled : path.rooted = other.rooted ↔ stepsText path = stepsText other := by
    simp [rooted, String.ofList_inj]
  rw [spelled]
  refine ⟨eq_or_imitates_of_stepsText_eq, ?_⟩
  rintro (rfl | imitates | imitates)
  · rfl
  · exact imitates.stepsText_eq
  · exact imitates.stepsText_eq.symm

/-- Only a path with a key that holds both quotes imitates another one. -/
theorem Imitates.exists_mixed_key {path other : Path} (imitates : path.Imitates other) :
    ∃ name, .key name ∈ path ∧ '\'' ∈ name.toList ∧ '"' ∈ name.toList := by
  obtain ⟨before, long, rest, short, otherRest, rfl, -, single, more, longer, -⟩ := imitates
  exact ⟨long, by simp, by simp [longer, single], by simp [longer]⟩

end Path

namespace Search

open Value

/-- What is left of a result that is passed on without its segments. -/
def Result.withoutSegments (r : Result) : Result := { r with segments := [] }

/-- A result that comes without its segments is taken for its own node exactly if all keys on the
way are readable. -/
theorem pathOf_withoutSegments_iff {r : Result} (spelled : r.jsonPath = r.segments.rooted)
    (natural : r.segments.IsNatural) :
    Prune.pathOf r.withoutSegments = .ok r.segments ↔ r.segments.IsReadable := by
  have nonempty : r.jsonPath ≠ "" := by
    rw [spelled, Ne, ← String.toList_inj, Path.rooted, String.toList_ofList]
    exact List.cons_ne_nil _ _
  cases segments : r.segments with
  | nil =>
      have root : r.jsonPath = "$" := by
        rw [spelled, segments]
        rfl
      simp [Prune.pathOf, Result.withoutSegments, root, Path.IsReadable]
  | cons step rest =>
      have notRoot : r.jsonPath ≠ "$" := by
        rw [spelled, segments, Ne, ← String.toList_inj, Path.rooted, String.toList_ofList]
        exact fun same => Path.stepsText_cons_ne_nil step rest (List.cons.inj same).2
      rw [← segments, ← Path.read_rooted_iff natural, ← spelled]
      have byName : Prune.pathOf r.withoutSegments =
          (Path.read r.jsonPath).mapError fun fault => (r.jsonPath, fault) := by
        simp [Prune.pathOf, Result.withoutSegments, nonempty, notRoot]
      rw [byName]
      cases Path.read r.jsonPath <;> simp [Except.mapError]

/-- Some search of a document has a result for each of its parts. -/
theorem exists_results_at {document : Value} (distinct : document.HasDistinctKeys) :
    ∃ o response, search o document = .ok response ∧ ∀ path part,
      document.get? path = some part → ∃ r ∈ response.results,
        r.segments = path ∧ r.value = part ∧ r.jsonPath = path.rooted := by
  obtain ⟨o, response, searched, every⟩ := exists_search_describes document
  refine ⟨o, response, searched, fun path part there => ?_⟩
  obtain ⟨r, found, segments, value, -, jsonPath⟩ :=
    every ⟨path, part⟩ (distinct.mem_nodes_iff.mpr there)
  exact ⟨r, found, segments, value, jsonPath⟩

/-- Two paths are spelled alike exactly if they are the same or one imitates the other. So it is
with the results of a search; and a result that is passed on without its segments is taken for its
own node exactly if all keys on the way are readable. -/
theorem spelled_alike_iff (path other : Path) :
    (path.rooted = other.rooted ↔ path = other ∨ path.Imitates other ∨ other.Imitates path) ∧
    ∀ (o : Options) (document : Value) (response : Response), document.HasDistinctKeys →
      search o document = .ok response → ∀ r ∈ response.results,
        (∀ other ∈ response.results, r.jsonPath = other.jsonPath ↔ r.segments = other.segments ∨
          r.segments.Imitates other.segments ∨ other.segments.Imitates r.segments) ∧
        (Prune.pathOf r.withoutSegments = .ok r.segments ↔ r.segments.IsReadable) := by
  refine ⟨Path.rooted_eq_rooted_iff, ?_⟩
  intro o document response distinct searched r found
  have spelled {r : Result} (found : r ∈ response.results) :
      r.jsonPath = r.segments.rooted ∧ r.segments.IsNatural := by
    obtain ⟨node, inside, segments, -, -, jsonPath⟩ := exists_describes distinct searched found
    rw [jsonPath, segments]
    exact ⟨rfl, isNatural_of_get? (distinct.mem_nodes_iff.mp inside)⟩
  constructor
  · intro other foundToo
    rw [(spelled found).1, (spelled foundToo).1, Path.rooted_eq_rooted_iff]
  · exact pathOf_withoutSegments_iff (spelled found).1 (spelled found).2

/-- A document with two keys that hold one kind of quotes each. -/
def differentQuotes : Value := .obj [("it's", .int 1), ("\"its\"", .int 2)]

/-- Keys with one kind of quotes are told apart. -/
theorem different_quotes_told_apart :
    differentQuotes.HasDistinctKeys ∧ ∃ o response, search o differentQuotes = .ok response ∧
      ∃ r ∈ response.results, ∃ other ∈ response.results, r.value = .int 1 ∧
        other.value = .int 2 ∧ r.jsonPath ≠ other.jsonPath ∧
        Prune.pathOf r.withoutSegments = .ok r.segments := by
  have distinct : differentQuotes.HasDistinctKeys :=
    .obj (by decide) (by simpa using ⟨.scalar rfl, .scalar rfl⟩)
  obtain ⟨o, response, searched, every⟩ := exists_results_at distinct
  obtain ⟨r, found, segments, value, -⟩ := every [.key "it's"] (.int 1)
    (by simp [differentQuotes, get?_cons, step?, field?])
  obtain ⟨other, foundToo, segmentsToo, valueToo, -⟩ := every [.key "\"its\""] (.int 2)
    (by simp [differentQuotes, get?_cons, step?, field?])
  obtain ⟨spelling, record⟩ :=
    (spelled_alike_iff [.key "it's"] [.key "\"its\""]).2 o differentQuotes response distinct
      searched r found
  refine ⟨distinct, o, response, searched, r, found, other, foundToo, value, valueToo, ?_, ?_⟩
  · rw [Ne, spelling other foundToo, segments, segmentsToo]
    rintro (same | imitates | imitates)
    · exact absurd same (by decide)
    · obtain ⟨name, key, -, double⟩ := imitates.exists_mixed_key
      obtain rfl : name = "it's" := by simpa using key
      exact absurd double (by decide)
    · obtain ⟨name, key, single, -⟩ := imitates.exists_mixed_key
      obtain rfl : name = "\"its\"" := by simpa using key
      exact absurd single (by decide)
  · have readable : Path.isReadableKey "it's" = true := by decide +kernel
    rw [record, segments]
    simp [Path.IsReadable, readable]

/-- A document with a key that spells out another key and the one below it. -/
def imitatedKeys : Value := .obj [("'a\"][\"'b", .int 1), ("'a", .obj [("'b", .int 2)])]

/-- Two different nodes may be shown under one spelling, and a result for one of them that is passed
on without its segments is taken for the other. -/
theorem different_nodes_spelled_alike :
    imitatedKeys.HasDistinctKeys ∧ ∃ o response, search o imitatedKeys = .ok response ∧
      ∃ r ∈ response.results, ∃ other ∈ response.results, r.value = .int 1 ∧
        other.value = .int 2 ∧ r.segments ≠ other.segments ∧ r.jsonPath = other.jsonPath ∧
        Prune.pathOf r.withoutSegments = .ok other.segments := by
  have distinct : imitatedKeys.HasDistinctKeys :=
    .obj (by decide) (by simpa using ⟨.scalar rfl, .obj (by simp) (by simpa using .scalar rfl)⟩)
  obtain ⟨o, response, searched, every⟩ := exists_results_at distinct
  obtain ⟨r, found, segments, value, jsonPath⟩ := every [.key "'a\"][\"'b"] (.int 1)
    (by simp [imitatedKeys, get?_cons, step?, field?])
  obtain ⟨other, foundToo, segmentsToo, valueToo, jsonPathToo⟩ :=
    every [.key "'a", .key "'b"] (.int 2) (by simp [imitatedKeys, get?_cons, step?, field?])
  have alike : Path.rooted [.key "'a\"][\"'b"] = "$[\"'a\"][\"'b\"]" ∧
      Path.rooted [.key "'a", .key "'b"] = "$[\"'a\"][\"'b\"]" := by
    decide +kernel
  have read : Path.read "$[\"'a\"][\"'b\"]" = .ok [.key "'a", .key "'b"] := by
    rfl
  refine ⟨distinct, o, response, searched, r, found, other, foundToo, value, valueToo, ?_, ?_, ?_⟩
  · rw [segments, segmentsToo]
    decide
  · rw [jsonPath, jsonPathToo]
    exact alike.1.trans alike.2.symm
  · have spelled : r.jsonPath = "$[\"'a\"][\"'b\"]" := jsonPath.trans alike.1
    rw [segmentsToo]
    simp [Prune.pathOf, Result.withoutSegments, spelled, read, Except.mapError]

end Search

end JsonSeek
