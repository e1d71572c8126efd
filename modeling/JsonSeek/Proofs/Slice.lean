import JsonSeek.Query.Select
import Mathlib.Data.List.Sort

/-!
# The indices of a slice

A slice means an arithmetic progression of indices: from its first bound on, in steps, as long as
its second bound and the end of the array are not reached. Testing every index of the array for
belonging to the slice gives the same indices (`sliceIndices_eq_filter`).
-/

namespace JsonSeek.Query

/-- The offset that a bound of a slice means. -/
def sliceBound (length : Nat) (n : Int) : Int := if n < 0 then max 0 (length + n) else n

/-- The indices from `first` on and before `last`, with a positive stride between them. -/
def progression (first last stride : Int) : List Nat :=
  (List.range ((last - first + stride - 1) / stride).toNat).map fun k : Nat =>
    (first + k * stride).toNat

/-- The indices that a slice means in an array of the given length. The defaults are the start, the
end and a step of one; a step that is not positive leaves nothing. -/
def sliceIndices (start stop step : Option Int) (length : Nat) : List Nat :=
  if 0 < step.getD 1 then
    progression (sliceBound length (start.getD 0))
      (min (sliceBound length (stop.getD length)) length) (step.getD 1)
  else []

theorem sliceBound_nonneg (length : Nat) (n : Int) : 0 ≤ sliceBound length n := by
  unfold sliceBound
  split <;> omega

theorem inSlice_eq (start stop step : Option Int) (length i : Nat) :
    inSlice start stop step length i =
      (decide (0 < step.getD 1) && decide (sliceBound length (start.getD 0) ≤ i) &&
        decide ((i : Int) < min (sliceBound length (stop.getD length)) length) &&
        ((i : Int) - sliceBound length (start.getD 0)) % step.getD 1 == 0) :=
  rfl

theorem lt_ediv_iff {k : Nat} {width stride : Int} (positive : 0 < stride) :
    k < ((width + stride - 1) / stride).toNat ↔ (k : Int) * stride < width := by
  have rounded : (k : Int) + 1 ≤ (width + stride - 1) / stride ↔
      ((k : Int) + 1) * stride ≤ width + stride - 1 := Int.le_ediv_iff_mul_le positive
  rw [Int.add_mul, Int.one_mul] at rounded
  omega

theorem mem_progression_iff {first last stride : Int} (nonneg : 0 ≤ first)
    (positive : 0 < stride) {i : Nat} :
    i ∈ progression first last stride ↔
      first ≤ i ∧ (i : Int) < last ∧ ((i : Int) - first) % stride = 0 := by
  simp only [progression, List.mem_map, List.mem_range]
  constructor
  · rintro ⟨k, inside, rfl⟩
    have product : 0 ≤ (k : Int) * stride := Int.mul_nonneg (Int.natCast_nonneg k) positive.le
    have below := (lt_ediv_iff positive).mp inside
    have value : ((first + k * stride).toNat : Int) = first + k * stride :=
      Int.toNat_of_nonneg (by omega)
    have apart : first + k * stride - first = k * stride := by omega
    rw [value, apart, Int.mul_emod_left]
    omega
  · rintro ⟨above, below, divides⟩
    have multiple : (i : Int) - first = ((i : Int) - first) / stride * stride :=
      (Int.ediv_mul_cancel (Int.dvd_of_emod_eq_zero divides)).symm
    have quotient : 0 ≤ ((i : Int) - first) / stride := Int.ediv_nonneg (by omega) positive.le
    refine ⟨(((i : Int) - first) / stride).toNat, (lt_ediv_iff positive).mpr ?_, ?_⟩
    · rw [Int.toNat_of_nonneg quotient]
      omega
    · rw [Int.toNat_of_nonneg quotient, ← multiple]
      omega

theorem pairwise_progression {first last stride : Int} (nonneg : 0 ≤ first)
    (positive : 0 < stride) : (progression first last stride).Pairwise (· < ·) := by
  refine List.pairwise_map.mpr (List.pairwise_lt_range.imp ?_)
  intro j k order
  have steps : (j : Int) * stride < (k : Int) * stride :=
    Int.mul_lt_mul_of_pos_right (Int.ofNat_lt.mpr order) positive
  have start : 0 ≤ (j : Int) * stride := Int.mul_nonneg (Int.natCast_nonneg j) positive.le
  omega

/-- The indices of a slice are those of the array that belong to it, in order. -/
theorem sliceIndices_eq_filter (start stop step : Option Int) (length : Nat) :
    sliceIndices start stop step length =
      (List.range length).filter (inSlice start stop step length) := by
  unfold sliceIndices
  split
  · rename_i positive
    have nonneg := sliceBound_nonneg length (start.getD 0)
    refine List.Pairwise.eq_of_mem_iff (pairwise_progression nonneg positive)
      (List.pairwise_lt_range.filter _) fun i => ?_
    rw [mem_progression_iff nonneg positive, List.mem_filter, List.mem_range]
    simp only [inSlice_eq, positive, decide_true, Bool.true_and, Bool.and_eq_true,
      decide_eq_true_eq, beq_iff_eq]
    omega
  · rename_i notPositive
    symm
    rw [List.filter_eq_nil_iff]
    intro i _ belongs
    simp [inSlice_eq, notPositive] at belongs

theorem pairwise_sliceIndices (start stop step : Option Int) (length : Nat) :
    (sliceIndices start stop step length).Pairwise (· < ·) := by
  rw [sliceIndices_eq_filter]
  exact List.pairwise_lt_range.filter _

end JsonSeek.Query
