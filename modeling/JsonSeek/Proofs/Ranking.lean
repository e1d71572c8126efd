import JsonSeek.Proofs.TextHit
import JsonSeek.Search.Run

/-!
# Ranking by the number of texts found

The score of a text hit is a sum of equal scores, one for each text that was found. Rounding keeps
sums of up to three of them apart, so that ranking by score is ranking by their number: the hits by
three texts come first, then those by two, then those by one, each group in document order.
-/

namespace JsonSeek.Search

/-! ## Sorting by a small key -/

section SmallKey

variable {α : Type} (key : α → Nat)

/-- Whether an element ranks before another one or beside it. -/
def ranksBefore (a b : α) : Bool := decide (key b ≤ key a)

/-- The elements in groups of equal keys, from three down to one. -/
def grouped (l : List α) : List α := [3, 2, 1].flatMap fun n => l.filter (key · = n)

theorem grouped_eq (l : List α) :
    grouped key l =
      l.filter (key · = 3) ++ (l.filter (key · = 2) ++ l.filter (key · = 1)) := by
  simp [grouped]

theorem ranksBefore_trans (a b c : α) (first : ranksBefore key a b = true)
    (second : ranksBefore key b c = true) : ranksBefore key a c = true := by
  simp only [ranksBefore, decide_eq_true_eq] at first second ⊢
  omega

theorem ranksBefore_total (a b : α) :
    (ranksBefore key a b || ranksBefore key b a) = true := by
  simp only [ranksBefore, Bool.or_eq_true, decide_eq_true_eq]
  omega

/-- Sorting keeps the order of elements with equal keys. -/
theorem filter_mergeSort (l : List α) (n : Nat) :
    (l.mergeSort (ranksBefore key)).filter (key · = n) = l.filter (key · = n) := by
  have level : (l.filter (key · = n)).Pairwise fun a b => ranksBefore key a b = true := by
    refine List.pairwise_of_forall_mem_list fun a inA b inB => ?_
    have keyA := of_decide_eq_true (List.mem_filter.mp inA).2
    have keyB := of_decide_eq_true (List.mem_filter.mp inB).2
    simp [ranksBefore, keyA, keyB]
  have kept := (List.sublist_mergeSort (ranksBefore_trans key) (ranksBefore_total key) level
    List.filter_sublist).filter (key · = n)
  rw [List.filter_filter] at kept
  simp only [Bool.and_self] at kept
  exact (kept.eq_of_length ((List.mergeSort_perm l _).filter _).length_eq.symm).symm

/-- A list in descending order of keys between one and three is in groups. -/
theorem eq_grouped {l : List α} (sorted : l.Pairwise fun a b => ranksBefore key a b = true)
    (small : ∀ a ∈ l, 0 < key a ∧ key a ≤ 3) : l = grouped key l := by
  induction l with
  | nil => rfl
  | cons a rest ih =>
      rw [List.pairwise_cons] at sorted
      have behind : ∀ n, key a < n → rest.filter (key · = n) = [] := by
        intro n above
        refine List.filter_eq_nil_iff.mpr fun b inside keyB => ?_
        have order := of_decide_eq_true (sorted.1 b inside)
        have equal := of_decide_eq_true keyB
        omega
      have regrouped := ih sorted.2 fun b inside => small b (List.mem_cons_of_mem _ inside)
      rw [grouped_eq] at regrouped ⊢
      have ⟨positive, bounded⟩ := small a List.mem_cons_self
      obtain one | two | three : key a = 1 ∨ key a = 2 ∨ key a = 3 := by omega
      · rw [behind 3 (by omega), behind 2 (by omega)] at regrouped
        simpa [one, behind 3 (by omega), behind 2 (by omega)] using regrouped
      · rw [behind 3 (by omega)] at regrouped
        simpa [two, behind 3 (by omega)] using regrouped
      · simpa [three] using regrouped

/-- Sorting by a key between one and three puts a list into groups. -/
theorem mergeSort_eq_grouped {l : List α} (small : ∀ a ∈ l, 0 < key a ∧ key a ≤ 3) :
    l.mergeSort (ranksBefore key) = grouped key l := by
  have sorted := List.pairwise_mergeSort (ranksBefore_trans key) (ranksBefore_total key) l
  rw [eq_grouped key sorted fun a inside => small a (List.mem_mergeSort.mp inside)]
  simp only [grouped, filter_mergeSort]

/-- Putting a list into groups only moves its members. -/
theorem perm_grouped {l : List α} (small : ∀ a ∈ l, 0 < key a ∧ key a ≤ 3) :
    (grouped key l).Perm l :=
  mergeSort_eq_grouped key small ▸ List.mergeSort_perm l _

end SmallKey

/-! ## Scores -/

theorem ble_scoreTimes (m : Match.Matcher) {a b : Nat} (aSmall : a ≤ 3) (bSmall : b ≤ 3) :
    Binary64.ble (scoreTimes (hitScore m) a) (scoreTimes (hitScore m) b) = decide (a ≤ b) := by
  have full : ∀ a < 4, ∀ b < 4,
      Binary64.ble (scoreTimes Match.fullScore a) (scoreTimes Match.fullScore b) =
        decide (a ≤ b) := by decide +kernel
  have fuzzy : ∀ a < 4, ∀ b < 4,
      Binary64.ble (scoreTimes Match.fuzzyHitScore a) (scoreTimes Match.fuzzyHitScore b) =
        decide (a ≤ b) := by decide +kernel
  unfold hitScore
  cases m.mode with
  | fuzzy => exact fuzzy a (by omega) b (by omega)
  | simple => exact full a (by omega) b (by omega)
  | regex => exact full a (by omega) b (by omega)

/-- The reports of hits are ranked by the number of texts found, and stay in order otherwise. -/
theorem rank_map_report (m : Match.Matcher) (o : Options) {hits : List Node}
    (areHits : ∀ node ∈ hits, isHit m o node = true) :
    rank (hits.map (report m o)) = (grouped (scopeCount m o) hits).map (report m o) := by
  have small : ∀ node ∈ hits, 0 < scopeCount m o node ∧ scopeCount m o node ≤ 3 :=
    fun node inside => ⟨scopeCount_pos_of_isHit (areHits node inside), scopeCount_le⟩
  have sameOrder : ∀ a ∈ hits, ∀ b ∈ hits,
      ranksBefore (scopeCount m o) a b =
        Binary64.ble (report m o b).score (report m o a).score :=
    fun a _ b _ => (ble_scoreTimes m scopeCount_le scopeCount_le).symm
  rw [rank, ← List.map_mergeSort sameOrder, mergeSort_eq_grouped _ small]

end JsonSeek.Search
