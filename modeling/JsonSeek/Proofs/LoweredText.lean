import JsonSeek.Text.Lowercase

/-!
# Lower case in context

A text is lowered character by character, but a capital sigma looks at what stands on both sides of
it. So the lower case of a piece of a text is one in context: `lowerBetween` lowers a text that has
other characters before and behind it, and the pieces of a text put together give the whole
(`lowerBetween_append`). The context can be left out as soon as every sigma finds the same end of a
word on its own (`lowerBetween_congr`).
-/

namespace JsonSeek.Text

/-! ## Looking for case -/

theorem startsCased_cons_of_not_ignorable {c : Char}
    (seen : holds caseIgnorableBounds c.toNat = false) (rest : List Char) :
    startsCased (c :: rest) = holds casedBounds c.toNat := by
  simp [startsCased, seen]

theorem startsCased_cons_of_ignorable {c : Char}
    (skipped : holds caseIgnorableBounds c.toNat = true) (rest : List Char) :
    startsCased (c :: rest) = startsCased rest := by
  simp [startsCased, skipped]

/-- What begins with case still does so when it goes on. -/
theorem startsCased_append_of_left {s : List Char} (cased : startsCased s = true) (t : List Char) :
    startsCased (s ++ t) = true := by
  induction s with
  | nil => cases cased
  | cons c rest ih =>
      cases skipped : holds caseIgnorableBounds c.toNat with
      | true =>
          rw [List.cons_append, startsCased_cons_of_ignorable skipped]
          rw [startsCased_cons_of_ignorable skipped] at cased
          exact ih cased
      | false =>
          have decided := startsCased_cons_of_not_ignorable skipped
          exact (decided (rest ++ t)).trans ((decided rest).symm.trans cased)

/-- The first character that is not skipped decides: neither what stands behind it matters, nor
which of those with case it is. -/
theorem startsCased_append_cons_congr {c d : Char}
    (seen : holds caseIgnorableBounds c.toNat = false)
    (seen' : holds caseIgnorableBounds d.toNat = false)
    (same : holds casedBounds c.toNat = holds casedBounds d.toNat) (s t u : List Char) :
    startsCased (s ++ c :: t) = startsCased (s ++ d :: u) := by
  induction s with
  | nil =>
      exact (startsCased_cons_of_not_ignorable seen t).trans
        (same.trans (startsCased_cons_of_not_ignorable seen' u).symm)
  | cons e rest ih =>
      cases skipped : holds caseIgnorableBounds e.toNat with
      | true => simpa only [List.cons_append, startsCased_cons_of_ignorable skipped] using ih
      | false => simp only [List.cons_append, startsCased_cons_of_not_ignorable skipped]

/-! ## Characters and texts in context -/

/-- The lower case of a character, given the characters before it in reverse and those behind it. -/
def lowerChar (before behind : List Char) (c : Char) : List Char :=
  if c = 'Σ' then [if startsCased before && !startsCased behind then 'ς' else 'σ']
  else if c = 'İ' then ['i', '\u0307']
  else [Char.ofNat (lowerCode c.toNat)]

/-- The lower case of a text that has other characters before it, here in reverse, and behind it. -/
def lowerBetween (before behind : List Char) : List Char → List Char
  | [] => []
  | c :: rest => lowerChar before (rest ++ behind) c ++ lowerBetween (c :: before) behind rest

theorem lowerAfter_eq_lowerBetween (before s : List Char) :
    lowerAfter before s = lowerBetween before [] s := by
  induction s generalizing before with
  | nil => rfl
  | cons c rest ih =>
      rw [lowerAfter, lowerBetween, lowerChar, ih, List.append_nil]
      simp only [beq_iff_eq]
      split
      · rfl
      · split <;> rfl

theorem lower_eq_lowerBetween (s : List Char) : lower s = lowerBetween [] [] s :=
  lowerAfter_eq_lowerBetween [] s

theorem lowerBetween_append (before behind s t : List Char) :
    lowerBetween before behind (s ++ t) =
      lowerBetween before (t ++ behind) s ++ lowerBetween (s.reverse ++ before) behind t := by
  induction s generalizing before with
  | nil => rfl
  | cons c rest ih =>
      simp only [List.cons_append, lowerBetween, ih, List.append_assoc, List.reverse_cons,
        List.nil_append]

/-- Only a capital I with a dot becomes longer. -/
theorem length_lowerChar (before behind : List Char) (c : Char) :
    (lowerChar before behind c).length = 1 + if c == 'İ' then 1 else 0 := by
  unfold lowerChar
  split
  · rename_i sigma
    rw [sigma]
    rfl
  · split
    · rename_i dotted
      rw [dotted]
      rfl
    · rename_i plain
      rw [if_neg (by simpa using plain)]
      rfl

theorem length_lowerBetween (before behind s : List Char) :
    (lowerBetween before behind s).length = s.length + s.count 'İ' := by
  induction s generalizing before with
  | nil => rfl
  | cons c rest ih =>
      rw [lowerBetween, List.length_append, length_lowerChar, ih, List.length_cons, List.count_cons]
      omega

theorem length_lower (s : List Char) : (lower s).length = s.length + s.count 'İ' := by
  rw [lower_eq_lowerBetween, length_lowerBetween]

theorem length_lowerBetween_of_undotted {s : List Char} (undotted : 'İ' ∉ s)
    (before behind : List Char) : (lowerBetween before behind s).length = s.length := by
  rw [length_lowerBetween, List.count_eq_zero.mpr undotted, Nat.add_zero]

/-- Where no character becomes longer, a piece of the lowered text is the piece of the text at the
same place, lowered in context. -/
theorem take_drop_lower {first piece : List Char} (undotted : 'İ' ∉ first ++ piece)
    (last : List Char) :
    ((lower (first ++ (piece ++ last))).drop first.length).take piece.length =
      lowerBetween first.reverse last piece := by
  rw [List.mem_append, not_or] at undotted
  rw [lower_eq_lowerBetween, lowerBetween_append, lowerBetween_append,
    List.drop_left' (length_lowerBetween_of_undotted undotted.1 _ _),
    List.take_left' (length_lowerBetween_of_undotted undotted.2 _ _), List.append_nil,
    List.append_nil]

/-- Two contexts give a text the same lower case if they give it to its capital sigmas. -/
theorem lowerBetween_congr {before behind before' behind' s : List Char}
    (same : ∀ first rest, s = first ++ 'Σ' :: rest →
      lowerChar (first.reverse ++ before) (rest ++ behind) 'Σ' =
        lowerChar (first.reverse ++ before') (rest ++ behind') 'Σ') :
    lowerBetween before behind s = lowerBetween before' behind' s := by
  induction s generalizing before before' with
  | nil => rfl
  | cons c rest ih =>
      have head : lowerChar before (rest ++ behind) c = lowerChar before' (rest ++ behind') c := by
        by_cases sigma : c = 'Σ'
        · subst sigma
          exact same [] rest rfl
        · simp only [lowerChar, if_neg sigma]
      have tail : lowerBetween (c :: before) behind rest =
          lowerBetween (c :: before') behind' rest :=
        ih fun first last split => by
          have whole := same (c :: first) last (congrArg (List.cons c) split)
          simpa only [List.reverse_cons, List.append_assoc, List.singleton_append] using whole
      rw [lowerBetween, lowerBetween, head, tail]

/-- Of the character behind a text it only matters whether it has case. -/
theorem lowerBetween_cons_congr {c d : Char} (seen : holds caseIgnorableBounds c.toNat = false)
    (seen' : holds caseIgnorableBounds d.toNat = false)
    (same : holds casedBounds c.toNat = holds casedBounds d.toNat) (before s t u : List Char) :
    lowerBetween before (c :: t) s = lowerBetween before (d :: u) s :=
  lowerBetween_congr fun first rest _ => by
    rw [lowerChar, lowerChar, startsCased_append_cons_congr seen seen' same]

/-! ## Sigmas -/

theorem lowerChar_sigma_of_final {before behind : List Char} (cased : startsCased before = true)
    (last : startsCased behind = false) : lowerChar before behind 'Σ' = ['ς'] := by
  simp [lowerChar, cased, last]

theorem lowerChar_sigma_of_not_final {before behind : List Char}
    (inside : startsCased before = true → startsCased behind = true) :
    lowerChar before behind 'Σ' = ['σ'] := by
  cases cased : startsCased before with
  | false => simp [lowerChar, cased]
  | true => simp [lowerChar, cased, inside cased]

theorem sigma_not_ignorable : holds caseIgnorableBounds 'Σ'.toNat = false := by decide +kernel

/-- What stands before a sigma is lowered without regard to what stands behind it. -/
theorem lower_append_sigma (first rest : List Char) :
    lower (first ++ 'Σ' :: rest) =
      lowerBetween [] ['Σ'] first ++
        (lowerChar first.reverse rest 'Σ' ++ lowerBetween ('Σ' :: first.reverse) [] rest) := by
  rw [lower_eq_lowerBetween, lowerBetween_append, List.append_nil, List.append_nil, lowerBetween,
    List.append_nil, lowerBetween_cons_congr sigma_not_ignorable sigma_not_ignorable rfl]

/-- Behind characters that do not become longer, a sigma keeps its place. -/
theorem lowerChar_prefix_drop_lower {first : List Char} (undotted : 'İ' ∉ first)
    (rest : List Char) :
    lowerChar first.reverse rest 'Σ' <+: (lower (first ++ 'Σ' :: rest)).drop first.length := by
  rw [lower_append_sigma, List.drop_left' (length_lowerBetween_of_undotted undotted _ _)]
  exact List.prefix_append _ _

theorem moveBy_of_still {runs : Array CaseRun} {n : Nat}
    (still : ∀ run ∈ runs.toList, run.moves n = false) (starts : Array Nat) :
    moveBy runs starts n = n := by
  unfold moveBy
  split
  · rfl
  · rename_i run found
    rw [← Array.getElem?_toList] at found
    rw [still run (List.mem_of_getElem? found)]
    rfl

/-- The small sigmas have no lower case but themselves. -/
theorem lowerCode_small_sigmas :
    lowerCode 'ς'.toNat = 'ς'.toNat ∧ lowerCode 'σ'.toNat = 'σ'.toNat := by
  have still : ∀ run ∈ lowerRuns.toList,
      run.moves 'ς'.toNat = false ∧ run.moves 'σ'.toNat = false := by decide +kernel
  constructor
  · rw [lowerCode, if_neg (by decide), moveBy_of_still fun run inside => (still run inside).1]
  · rw [lowerCode, if_neg (by decide), moveBy_of_still fun run inside => (still run inside).2]

theorem lower_final_sigma : lower ['ς'] = ['ς'] := by
  rw [lower_eq_lowerBetween, lowerBetween, lowerBetween, lowerChar, if_neg (by decide),
    if_neg (by decide), lowerCode_small_sigmas.1]
  rfl

/-- A small sigma stays as it is, and before it a text is lowered as before a capital one. -/
theorem lower_append_small_sigma (first : List Char) :
    lower (first ++ ['σ']) = lowerBetween [] ['Σ'] first ++ ['σ'] := by
  have seen : holds caseIgnorableBounds 'σ'.toNat = false := by decide +kernel
  have same : holds casedBounds 'σ'.toNat = holds casedBounds 'Σ'.toNat := by decide +kernel
  have small : lowerBetween first.reverse [] ['σ'] = ['σ'] := by
    rw [lowerBetween, lowerBetween, lowerChar, if_neg (by decide), if_neg (by decide),
      lowerCode_small_sigmas.2]
    rfl
  rw [lower_eq_lowerBetween, lowerBetween_append, List.append_nil, List.append_nil, small,
    lowerBetween_cons_congr seen sigma_not_ignorable same]

end JsonSeek.Text
