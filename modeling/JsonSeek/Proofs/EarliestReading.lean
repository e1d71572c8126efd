import Mathlib.Data.List.NodupEquivFin
import Mathlib.Order.Bounds.Basic
import JsonSeek.Proofs.Occurrences
import JsonSeek.Proofs.RoundingOrder

/-!
# Subsequence search reads as early and as much as possible

A query can be read in a text in many ways: its characters are found from left to right, others are
passed over, and the reading may break off before the query ends. Subsequence search takes each
character where it first can. No other reading has a character earlier, and so none goes on further
(`taken_reads_earliest`). What is read in a text can be read in every text that contains its
characters in order, so that such a text has no lower score.
-/

namespace JsonSeek.Match

/-! ## Readings -/

/-- Places in a text, from left to right, that hold the first characters of a query. -/
structure IsReading (text query : List Char) (places : List Nat) : Prop where
  increasing : places.Pairwise (· < ·)
  shows : ∀ (n i : Nat), places[n]? = some i → ∃ c, text[i]? = some c ∧ query[n]? = some c

/-- Each character that was read by the second reading is read by the first one, and no later. -/
def IsAheadOf (places others : List Nat) : Prop :=
  ∀ (n j : Nat), others[n]? = some j → ∃ i, places[n]? = some i ∧ i ≤ j

section

variable {text query : List Char} {places : List Nat}

theorem isAheadOf_nil (places : List Nat) : IsAheadOf places [] := by
  intro n j read
  cases read

theorem IsAheadOf.cons {i j : Nat} {others : List Nat} (le : i ≤ j)
    (ahead : IsAheadOf places others) : IsAheadOf (i :: places) (j :: others) := by
  intro n k read
  cases n with
  | zero =>
      cases read
      exact ⟨i, rfl, le⟩
  | succ n => exact ahead n k read

theorem IsAheadOf.length_le {others : List Nat} (ahead : IsAheadOf places others) :
    others.length ≤ places.length := by
  rcases Nat.eq_zero_or_pos others.length with empty | some
  · rw [empty]
    exact Nat.zero_le _
  · have last : others.length - 1 < others.length := Nat.sub_one_lt_of_lt some
    obtain ⟨i, read, -⟩ := ahead _ _ (List.getElem?_eq_getElem last)
    have inside := (List.getElem?_eq_some_iff.mp read).1
    omega

theorem IsReading.length_le (reading : IsReading text query places) :
    places.length ≤ query.length := by
  rcases Nat.eq_zero_or_pos places.length with empty | some
  · rw [empty]
    exact Nat.zero_le _
  · have last : places.length - 1 < places.length := Nat.sub_one_lt_of_lt some
    obtain ⟨c, -, read⟩ := reading.shows _ _ (List.getElem?_eq_getElem last)
    have inside := (List.getElem?_eq_some_iff.mp read).1
    omega

theorem IsReading.lt_of_mem (reading : IsReading text query places) {i : Nat}
    (inside : i ∈ places) : i < text.length := by
  obtain ⟨n, read⟩ := List.mem_iff_getElem?.mp inside
  obtain ⟨c, found, -⟩ := reading.shows n i read
  exact (List.getElem?_eq_some_iff.mp found).1

theorem IsReading.tail {c : Char} {i : Nat} (reading : IsReading text (c :: query) (i :: places)) :
    IsReading text query places where
  increasing := (List.pairwise_cons.mp reading.increasing).2
  shows n := reading.shows (n + 1)

/-! ## The search reads -/

theorem isReading_taken (text query : List Char) : IsReading text query (taken text query) where
  increasing := pairwise_takenFrom 0 text query
  shows := by
    intro n i read
    obtain ⟨k, rfl, short, same⟩ := exists_of_getElem?_takenFrom read
    rw [Nat.zero_add, ← same]
    exact ⟨text[k], List.getElem?_eq_getElem short, List.getElem?_eq_getElem short⟩

/-- What is taken from a text is the beginning of the query, as a subsequence of the text. -/
theorem take_length_takenFrom_sublist (offset : Nat) (text query : List Char) :
    (query.take (takenFrom offset text query).length).Sublist text := by
  induction text generalizing offset query with
  | nil => exact List.nil_sublist _
  | cons c rest ih =>
      cases query with
      | nil => exact List.nil_sublist _
      | cons d query =>
          rw [takenFrom]
          split
          · rename_i same
            rw [same]
            exact (ih (offset + 1) query).cons_cons d
          · exact (ih (offset + 1) (d :: query)).cons c

/-- A reading whose places all lie behind what was already searched is not ahead of the search. The
character at hand is taken if it is the next of the query; otherwise no reading can use it. -/
theorem isAheadOf_takenFrom {before rest : List Char}
    (reading : IsReading (before ++ rest) query places)
    (behind : ∀ i ∈ places, before.length ≤ i) :
    IsAheadOf (takenFrom before.length rest query) places := by
  induction rest generalizing before query places with
  | nil =>
      cases places with
      | nil => exact isAheadOf_nil _
      | cons i more =>
          have inside := reading.lt_of_mem List.mem_cons_self
          rw [List.append_nil] at inside
          exact absurd (behind i List.mem_cons_self) (Nat.not_le_of_lt inside)
  | cons c rest ih =>
      have moved : before ++ c :: rest = before ++ [c] ++ rest := by simp
      have size : before.length + 1 = (before ++ [c]).length := by simp
      cases places with
      | nil => exact isAheadOf_nil _
      | cons j more =>
          have first := behind j List.mem_cons_self
          have later : ∀ i ∈ more, before.length + 1 ≤ i := fun i inside =>
            Nat.lt_of_le_of_lt first ((List.pairwise_cons.mp reading.increasing).1 i inside)
          obtain ⟨d, found, next⟩ := reading.shows 0 j rfl
          cases query with
          | nil => cases next
          | cons e query =>
              cases next
              rw [takenFrom]
              split
              · apply IsAheadOf.cons first
                rw [size] at later ⊢
                exact ih (moved ▸ reading.tail) later
              · rename_i different
                have notHere : before.length ≠ j := by
                  rintro rfl
                  rw [List.getElem?_append_right (Nat.le_refl _), Nat.sub_self] at found
                  exact different (Option.some.inj found)
                rw [size] at later ⊢
                apply ih (moved ▸ reading)
                intro i inside
                rcases List.mem_cons.mp inside with rfl | inside
                · rw [← size]
                  exact Nat.lt_of_le_of_ne first notHere
                · exact later i inside

theorem isAheadOf_taken (reading : IsReading text query places) :
    IsAheadOf (taken text query) places := by
  have fromStart : IsReading ([] ++ text) query places := reading
  apply isAheadOf_takenFrom fromStart
  intro i _
  exact Nat.zero_le i

/-- A beginning of the query that is a subsequence of the text can be read there. -/
theorem exists_isReading {n : Nat} (short : n ≤ query.length)
    (contained : (query.take n).Sublist text) :
    ∃ places, IsReading text query places ∧ places.length = n := by
  obtain ⟨place, same⟩ := List.sublist_iff_exists_orderEmbedding_getElem?_eq.mp contained
  refine ⟨(List.range n).map place, ⟨?_, ?_⟩, by simp⟩
  · exact List.pairwise_map.mpr (List.pairwise_lt_range.imp place.lt_iff_lt.mpr)
  · intro k i read
    rw [List.getElem?_map, Option.map_eq_some_iff] at read
    obtain ⟨k', read, rfl⟩ := read
    obtain ⟨inside, rfl⟩ := List.getElem?_eq_some_iff.mp read
    rw [List.length_range] at inside
    rw [List.getElem_range, ← same, List.getElem?_take_of_lt inside]
    have whole := List.getElem?_eq_getElem (Nat.lt_of_lt_of_le inside short)
    exact ⟨query[k], whole, whole⟩

/-- No reading goes on further than the search. -/
theorem isGreatest_length_taken (text query : List Char) :
    IsGreatest {n | n ≤ query.length ∧ (query.take n).Sublist text}
      (taken text query).length := by
  constructor
  · exact ⟨(isReading_taken text query).length_le, take_length_takenFrom_sublist 0 text query⟩
  · rintro n ⟨short, contained⟩
    obtain ⟨places, reading, rfl⟩ := exists_isReading short contained
    exact (isAheadOf_taken reading).length_le

theorem length_taken_eq_iff : (taken text query).length = query.length ↔ query.Sublist text := by
  obtain ⟨⟨short, contained⟩, greatest⟩ := isGreatest_length_taken text query
  constructor
  · intro all
    rwa [all, List.take_length] at contained
  · intro whole
    apply Nat.le_antisymm short
    apply greatest
    exact ⟨Nat.le_refl _, by rwa [List.take_length]⟩

/-- What is taken from a text can be taken from every text that contains it. -/
theorem length_taken_mono {other : List Char} (contained : text.Sublist other)
    (query : List Char) : (taken text query).length ≤ (taken other query).length := by
  obtain ⟨short, prefixContained⟩ := (isGreatest_length_taken text query).1
  apply (isGreatest_length_taken other query).2
  exact ⟨short, prefixContained.trans contained⟩

end

/-! ## Scores -/

theorem fuzzyScore_eq {query : List Char} (nonempty : query ≠ []) (text : List Char) :
    fuzzyScore text query = .ofRatio false (taken text query).length query.length := by
  have full : query.isEmpty = false := by simpa using nonempty
  rw [fuzzyScore, full]
  rfl

/-- The search reads the query, and no reading is ahead of it anywhere. What it takes is the longest
beginning of the query that is a subsequence of the text, and its share of the query is the score.
So all of the query is found exactly if it is a subsequence of the text, and a text that contains
another one as a subsequence has at least the score of that one. -/
theorem taken_reads_earliest {query : List Char} (nonempty : query ≠ []) (text : List Char) :
    IsReading text query (taken text query) ∧
    (∀ places, IsReading text query places → IsAheadOf (taken text query) places) ∧
    IsGreatest {n | n ≤ query.length ∧ (query.take n).Sublist text} (taken text query).length ∧
    fuzzyScore text query = .ofRatio false (taken text query).length query.length ∧
    ((taken text query).length = query.length ↔ query.Sublist text) ∧
    ∀ other, text.Sublist other →
      Binary64.ble (fuzzyScore text query) (fuzzyScore other query) = true := by
  refine ⟨isReading_taken text query, fun _ => isAheadOf_taken, isGreatest_length_taken text query,
    fuzzyScore_eq nonempty text, length_taken_eq_iff, ?_⟩
  intro other contained
  rw [fuzzyScore_eq nonempty, fuzzyScore_eq nonempty]
  exact Binary64.ble_ofRatio (length_taken_mono contained query) (List.length_pos_iff.mpr nonempty)

/-- A character that is not found holds up those behind it. The longer text has it. -/
theorem taken_reads_up_to_missing :
    "l!o".toList ≠ [] ∧ taken "hello".toList "l!o".toList = [2] ∧
      ¬ "l!o".toList.Sublist "hello".toList ∧
      fuzzyScore "hello".toList "l!o".toList = .ofRatio false 1 3 ∧
      Binary64.ble (fuzzyScore "hello".toList "l!o".toList)
        (fuzzyScore "hello! hello".toList "l!o".toList) = true := by
  have nonempty : "l!o".toList ≠ [] := by decide
  have read : taken "hello".toList "l!o".toList = [2] := by decide
  obtain ⟨-, -, -, score, whole, more⟩ := taken_reads_earliest nonempty "hello".toList
  rw [read] at score whole
  refine ⟨nonempty, read, mt whole.mpr (by decide), score, more _ ?_⟩
  exact List.sublist_append_left "hello".toList "! hello".toList

end JsonSeek.Match
