import JsonSeek.Match.Matcher
import JsonSeek.Proofs.Binary64Range

/-!
# Where a query is found

The two searches for a literal query read the text once, from left to right. Substring search
reports occurrences that do not overlap, and passes over one only if it starts inside a reported one
(`exists_mem_occurrences`). Subsequence search takes characters in order, the n-th of them equal to
the n-th character of the query.
-/

namespace JsonSeek.Match

/-! ## Substrings -/

section

variable {query text : List Char} {offset skip : Nat} {span : Span}

/-- A reported span is an occurrence that does not start among the skipped characters. -/
theorem exists_of_mem_occurrencesFrom (inside : span ∈ occurrencesFrom query offset skip text) :
    ∃ i : Nat, skip ≤ i ∧ i < text.length ∧ query <+: text.drop i ∧
      span = ⟨(offset + i : Nat), (offset + i + query.length : Nat)⟩ := by
  induction text generalizing offset skip with
  | nil => cases inside
  | cons c rest ih =>
      have later {least : Nat} (inside : span ∈ occurrencesFrom query (offset + 1) least rest) :
          ∃ i : Nat, least + 1 ≤ i ∧ i < (c :: rest).length ∧ query <+: (c :: rest).drop i ∧
            span = ⟨(offset + i : Nat), (offset + i + query.length : Nat)⟩ := by
        obtain ⟨i, behind, short, occurs, rfl⟩ := ih inside
        refine ⟨i + 1, Nat.succ_le_succ behind, Nat.succ_lt_succ short, occurs, ?_⟩
        rw [Nat.add_right_comm offset 1 i, Nat.add_assoc offset i 1]
      cases skip with
      | succ skip => exact later inside
      | zero =>
          rw [occurrencesFrom] at inside
          split at inside
          · rename_i occurs
            rcases List.mem_cons.mp inside with rfl | inside
            · exact ⟨0, Nat.le_refl 0, Nat.succ_pos _, List.isPrefixOf_iff_prefix.mp occurs, rfl⟩
            · obtain ⟨i, -, found⟩ := later inside
              exact ⟨i, Nat.zero_le i, found⟩
          · obtain ⟨i, -, found⟩ := later inside
            exact ⟨i, Nat.zero_le i, found⟩

/-- Each reported span ends before the next one starts. -/
theorem pairwise_occurrencesFrom (query text : List Char) (offset skip : Nat) :
    (occurrencesFrom query offset skip text).Pairwise fun a b => a.stop ≤ b.start := by
  induction text generalizing offset skip with
  | nil => exact List.Pairwise.nil
  | cons c rest ih =>
      cases skip with
      | succ skip => exact ih (offset + 1) skip
      | zero =>
          rw [occurrencesFrom]
          split
          · refine List.pairwise_cons.mpr ⟨fun span inside => ?_, ih (offset + 1) _⟩
            obtain ⟨i, behind, -, -, rfl⟩ := exists_of_mem_occurrencesFrom inside
            refine Int.ofNat_le.mpr ?_
            omega
          · exact ih (offset + 1) 0

/-- Every occurrence behind the skipped characters starts in a reported span. -/
theorem exists_mem_occurrencesFrom (offset : Nat) (nonempty : query ≠ []) {i : Nat}
    (behind : skip ≤ i) (short : i < text.length) (occurs : query <+: text.drop i) :
    ∃ span ∈ occurrencesFrom query offset skip text,
      span.start ≤ (offset + i : Nat) ∧ ((offset + i : Nat) : Int) < span.stop := by
  induction text generalizing offset skip i with
  | nil => cases short
  | cons c rest ih =>
      have later (least : Nat) {j : Nat} (behind : least ≤ j) (short : j + 1 < (c :: rest).length)
          (occurs : query <+: (c :: rest).drop (j + 1)) :
          ∃ span ∈ occurrencesFrom query (offset + 1) least rest,
            span.start ≤ (offset + (j + 1) : Nat) ∧
              ((offset + (j + 1) : Nat) : Int) < span.stop := by
        rw [← Nat.add_assoc, Nat.add_right_comm]
        exact ih (offset + 1) behind (Nat.lt_of_succ_lt_succ short) occurs
      cases skip with
      | succ skip =>
          obtain ⟨j, rfl⟩ := Nat.exists_eq_add_of_le' (Nat.le_trans (Nat.le_add_left 1 skip) behind)
          exact later skip (Nat.le_of_succ_le_succ behind) short occurs
      | zero =>
          rw [occurrencesFrom]
          split
          · by_cases within : i < query.length
            · refine ⟨_, List.mem_cons_self, Int.ofNat_le.mpr (Nat.le_add_right offset i), ?_⟩
              exact Int.ofNat_lt.mpr (Nat.add_lt_add_left within offset)
            · have size := List.length_pos_iff.mpr nonempty
              obtain ⟨j, rfl⟩ := Nat.exists_eq_add_of_le' (show 1 ≤ i by omega)
              obtain ⟨span, inside, covers⟩ := later (query.length - 1) (by omega) short occurs
              exact ⟨span, List.mem_cons_of_mem _ inside, covers⟩
          · rename_i absent
            cases i with
            | zero => exact absurd (List.isPrefixOf_iff_prefix.mpr occurs) absent
            | succ j => exact later 0 (Nat.zero_le j) short occurs

/-- A reported span is an occurrence in the text. -/
theorem exists_of_mem_occurrences (inside : span ∈ occurrences query text) :
    query ≠ [] ∧ ∃ i : Nat, i + query.length ≤ text.length ∧ query <+: text.drop i ∧
      span = ⟨i, (i + query.length : Nat)⟩ := by
  unfold occurrences at inside
  split at inside
  · cases inside
  · rename_i nonempty
    obtain ⟨i, -, short, occurs, rfl⟩ := exists_of_mem_occurrencesFrom inside
    have fits := occurs.length_le
    rw [List.length_drop] at fits
    rw [Nat.zero_add]
    exact ⟨fun empty => nonempty (List.isEmpty_iff.mpr empty), i, by omega, occurs, rfl⟩

theorem pairwise_occurrences (query text : List Char) :
    (occurrences query text).Pairwise fun a b => a.stop ≤ b.start := by
  unfold occurrences
  split
  · exact List.Pairwise.nil
  · exact pairwise_occurrencesFrom query text 0 0

/-- Every occurrence in the text starts in a reported span. -/
theorem exists_mem_occurrences (nonempty : query ≠ []) {i : Nat} (occurs : query <+: text.drop i) :
    ∃ span ∈ occurrences query text, span.start ≤ i ∧ (i : Int) < span.stop := by
  have fits := occurs.length_le
  have size := List.length_pos_iff.mpr nonempty
  rw [List.length_drop] at fits
  obtain ⟨span, inside, covers⟩ := exists_mem_occurrencesFrom 0 nonempty (Nat.zero_le i) (by omega)
    occurs
  rw [Nat.zero_add] at covers
  refine ⟨span, ?_, covers⟩
  rwa [occurrences, if_neg (by simpa using nonempty)]

theorem occursIn_iff : occursIn query text = true ↔ ∃ i, query <+: text.drop i := by
  induction text with
  | nil => simp [occursIn]
  | cons c rest ih =>
      rw [occursIn, Bool.or_eq_true, List.isPrefixOf_iff_prefix, ih]
      constructor
      · rintro (here | ⟨i, later⟩)
        · exact ⟨0, here⟩
        · exact ⟨i + 1, later⟩
      · rintro ⟨_ | i, occurs⟩
        · exact .inl occurs
        · exact .inr ⟨i, occurs⟩

theorem occursIn_iff_infix {query text : List Char} :
    occursIn query text = true ↔ query <:+: text := by
  rw [occursIn_iff]
  constructor
  · rintro ⟨i, occurs⟩
    exact occurs.isInfix.trans (List.drop_suffix i text).isInfix
  · rintro ⟨before, behind, rfl⟩
    refine ⟨before.length, ?_⟩
    rw [List.append_assoc, List.drop_left]
    exact List.prefix_append query behind

theorem matched_runSimple (caseSensitive : Bool) (query text : List Char) :
    (Matcher.runSimple caseSensitive query text).matched = true ↔
      query <:+: normalize caseSensitive text := by
  rw [← occursIn_iff_infix]
  simp only [Matcher.runSimple]
  split
  · rename_i found
    exact iff_of_true rfl found
  · rename_i absent
    exact iff_of_false Bool.false_ne_true absent

/-- A text that does not hold the query has no occurrences of it. -/
theorem positions_runSimple (caseSensitive : Bool) (query text : List Char) :
    (Matcher.runSimple caseSensitive query text).positions =
      occurrences query (normalize caseSensitive text) := by
  simp only [Matcher.runSimple]
  split
  · rfl
  · rename_i absent
    refine (List.eq_nil_iff_forall_not_mem.mpr fun span inside => absent ?_).symm
    obtain ⟨-, i, -, occurs, -⟩ := exists_of_mem_occurrences inside
    exact occursIn_iff.mpr ⟨i, occurs⟩

end

/-! ## Subsequences -/

section

variable {text query : List Char} {offset n i : Nat}

/-- The n-th character that is taken is the n-th of the query. -/
theorem exists_of_getElem?_takenFrom (reported : (takenFrom offset text query)[n]? = some i) :
    ∃ k, i = offset + k ∧ k < text.length ∧ text[k]? = query[n]? := by
  induction text generalizing offset query n with
  | nil => cases reported
  | cons c rest ih =>
      have later (query : List Char) (n : Nat)
          (reported : (takenFrom (offset + 1) rest query)[n]? = some i) :
          ∃ k, i = offset + k ∧ k < (c :: rest).length ∧ (c :: rest)[k]? = query[n]? := by
        obtain ⟨k, rfl, short, same⟩ := ih reported
        exact ⟨k + 1, Nat.add_right_comm offset 1 k, Nat.succ_lt_succ short, same⟩
      cases query with
      | nil => cases reported
      | cons d query =>
          rw [takenFrom] at reported
          split at reported
          · rename_i same
            cases n with
            | zero =>
                cases reported
                exact ⟨0, rfl, Nat.succ_pos _, congrArg some same⟩
            | succ n => exact later query n reported
          · exact later (d :: query) n reported

theorem le_of_mem_takenFrom (inside : i ∈ takenFrom offset text query) : offset ≤ i := by
  obtain ⟨n, reported⟩ := List.mem_iff_getElem?.mp inside
  obtain ⟨k, rfl, -⟩ := exists_of_getElem?_takenFrom reported
  exact Nat.le_add_right offset k

/-- Characters are taken from left to right. -/
theorem pairwise_takenFrom (offset : Nat) (text query : List Char) :
    (takenFrom offset text query).Pairwise (· < ·) := by
  induction text generalizing offset query with
  | nil => exact List.Pairwise.nil
  | cons c rest ih =>
      cases query with
      | nil => exact List.Pairwise.nil
      | cons d query =>
          rw [takenFrom]
          split
          · exact List.pairwise_cons.mpr ⟨fun i inside => le_of_mem_takenFrom inside, ih _ _⟩
          · exact ih _ _

/-- A text takes all of itself. -/
theorem takenFrom_self (offset : Nat) (text : List Char) :
    takenFrom offset text text = List.range' offset text.length := by
  induction text generalizing offset with
  | nil => rfl
  | cons c rest ih => rw [takenFrom, if_pos rfl, ih, List.length_cons, List.range'_succ]

/-- No share of a query is less than nothing. -/
theorem fuzzyMatches_zero {query : List Char} (nonempty : query ≠ []) (text : List Char) :
    fuzzyMatches text query .zero = true := by
  have full : query.isEmpty = false := by simpa using nonempty
  rw [fuzzyMatches, fuzzyScore, full]
  exact Binary64.zero_ble_ofRatio _ _

end

end JsonSeek.Match
