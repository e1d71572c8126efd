import JsonSeek.Match.Spans
import JsonSeek.Proofs.QueryMeaning
import JsonSeek.Proofs.QuerySpelling

/-!
# Slices of an array

A slice of an array means what cutting a piece out of a text means: both bounds are first brought
into the array, and then every index from the first bound up to the second is taken, in steps. A
query does it the other way round, and moves only bounds below zero before it looks at the end of
the array. The elements that it selects are the same (`run_slice_selects_steps`).
-/

namespace JsonSeek.Query

open Match (offsetIn)

/-! ## Stepping through a range -/

/-- The numbers from `first` on and below `last`, in steps. -/
def steps (first last stride : Nat) : List Nat :=
  List.range' first ((last - first + (stride - 1)) / stride) stride

theorem mem_steps_iff {first last stride i : Nat} (positive : 0 < stride) :
    i ∈ steps first last stride ↔ i < last ∧ ∃ k, i = first + stride * k := by
  have short (k : Nat) :
      k < (last - first + (stride - 1)) / stride ↔ first + stride * k < last := by
    rw [← Nat.add_one_le_iff, Nat.le_div_iff_mul_le positive, Nat.add_one_mul, Nat.mul_comm]
    omega
  rw [steps, List.mem_range']
  constructor
  · rintro ⟨k, inside, rfl⟩
    exact ⟨(short k).mp inside, k, rfl⟩
  · rintro ⟨below, k, rfl⟩
    exact ⟨k, (short k).mpr below, rfl⟩

theorem pairwise_steps {first last stride : Nat} (positive : 0 < stride) :
    (steps first last stride).Pairwise (· < ·) :=
  List.pairwise_lt_range' stride positive

/-- The indices from one bound up to another in an array of the given length. Bounds mean what they
mean in a text, and the defaults are the start, the end and a step of one. -/
def slicedIndices (start stop step : Option Int) (length : Nat) : List Nat :=
  steps (offsetIn length (start.getD 0)) (offsetIn length (stop.getD length)) (step.getD 1).toNat

theorem natCast_offsetIn (length : Nat) (n : Int) :
    (offsetIn length n : Int) = min (sliceBound length n) length := by
  unfold offsetIn sliceBound
  split <;> omega

section

variable {start stop step : Option Int} {length : Nat} (positive : 0 < step.getD 1)

include positive

theorem lt_of_mem_slicedIndices {i : Nat} (inside : i ∈ slicedIndices start stop step length) :
    i < length := by
  have below := ((mem_steps_iff (by omega)).mp inside).1
  have last := natCast_offsetIn length (stop.getD length)
  omega

/-- Bounds may be brought into the array before or after they are compared with its end. -/
theorem sliceIndices_eq_slicedIndices :
    sliceIndices start stop step length = slicedIndices start stop step length := by
  obtain ⟨stride, isStride⟩ := Int.eq_ofNat_of_zero_le (Int.le_of_lt positive)
  rw [isStride] at positive
  have ordered : (slicedIndices start stop step length).Pairwise (· < ·) :=
    pairwise_steps (by omega)
  have nonneg := sliceBound_nonneg length (start.getD 0)
  have first := natCast_offsetIn length (start.getD 0)
  have last := natCast_offsetIn length (stop.getD length)
  refine List.Pairwise.eq_of_mem_iff (pairwise_sliceIndices start stop step length) ordered
    fun i => ?_
  rw [slicedIndices, mem_steps_iff (by omega), sliceIndices, isStride, if_pos positive,
    mem_progression_iff nonneg positive, Int.toNat_natCast]
  constructor
  · rintro ⟨above, below, divides⟩
    obtain ⟨k, apart⟩ := Int.dvd_of_emod_eq_zero divides
    have natural : 0 ≤ k := by
      refine Int.nonneg_of_mul_nonneg_right ?_ positive
      omega
    obtain ⟨k, rfl⟩ := Int.eq_ofNat_of_zero_le natural
    refine ⟨by omega, k, Int.ofNat.inj ?_⟩
    rw [Int.ofNat_eq_natCast, Int.ofNat_eq_natCast, Int.natCast_add, Int.natCast_mul]
    omega
  · rintro ⟨below, k, rfl⟩
    have product := Int.natCast_mul stride k
    have apart : ((offsetIn length (start.getD 0) + stride * k : Nat) : Int) -
        sliceBound length (start.getD 0) = stride * k := by omega
    refine ⟨by omega, by omega, ?_⟩
    rw [apart, Int.mul_emod_right]

end

/-! ## Selecting the elements -/

/-- The nodes of the elements at the given indices. -/
def elementsAt (items : List Value) (indices : List Nat)
    (within : ∀ i ∈ indices, i < items.length) : List Node :=
  indices.pmap (fun i inside => ⟨[.index (i : Nat)], items[i]⟩) within

theorem flatMap_child_eq_elementsAt {items : List Value} {indices : List Nat}
    (within : ∀ i ∈ indices, i < items.length) :
    (indices.flatMap fun i : Nat =>
      items[i]?.toList.map (Node.child ⟨[], .arr items⟩ (.index i))) =
        elementsAt items indices within := by
  induction indices with
  | nil => rfl
  | cons i rest ih =>
      obtain ⟨here, later⟩ := List.forall_mem_cons.mp within
      rw [List.flatMap_cons, ih later, List.getElem?_eq_getElem here]
      rfl

theorem picks_slice (start stop step : Option Int) (items : List Value)
    (within : ∀ i ∈ sliceIndices start stop step items.length, i < items.length) :
    (Token.slice start stop step).picks ⟨[], .arr items⟩ =
      elementsAt items (sliceIndices start stop step items.length) within :=
  flatMap_child_eq_elementsAt within

theorem picks_slice_of_not_array (start stop step : Option Int) {document : Value}
    (scalar : ∀ items, document ≠ .arr items) :
    (Token.slice start stop step).picks ⟨[], document⟩ = [] := by
  cases document with
  | arr items => exact absurd rfl (scalar items)
  | _ => rfl

/-- A slice of an array selects the elements at the indices from its first bound up to its second
one, in steps, all of which the array has. A step that is not positive selects nothing, and so does
a slice of anything else. -/
theorem run_slice_selects_steps {start stop step : Option Int} {body : List Char}
    (spelled : IsBracketed (.slice start stop step) body) :
    (0 < step.getD 1 → ∀ items : List Value,
      (slicedIndices start stop step items.length).Pairwise (· < ·) ∧
        ∃ within : ∀ i ∈ slicedIndices start stop step items.length, i < items.length,
          run (bracketQuery body) (.arr items) =
            .ok (elementsAt items (slicedIndices start stop step items.length) within)) ∧
      (step.getD 1 ≤ 0 → ∀ items, run (bracketQuery body) (.arr items) = .ok []) ∧
      ∀ document, (∀ items, document ≠ .arr items) → run (bracketQuery body) document = .ok [] := by
  have picked (document : Value) : run (bracketQuery body) document =
      .ok ((Token.slice start stop step).picks ⟨[], document⟩) :=
    run_of_single (tokenize_bracketQuery spelled) document
  refine ⟨fun positive items => ?_, fun still items => ?_, fun document scalar => ?_⟩
  · have same := @sliceIndices_eq_slicedIndices start stop step items.length positive
    have within : ∀ i ∈ slicedIndices start stop step items.length, i < items.length :=
      fun _ => lt_of_mem_slicedIndices positive
    refine ⟨pairwise_steps (by omega), within, ?_⟩
    have selected := picks_slice start stop step items (same ▸ within)
    simp only [same] at selected
    rw [picked, selected]
  · have nothing : sliceIndices start stop step items.length = [] :=
      if_neg (Int.not_lt.mpr still)
    rw [picked, picks_slice start stop step items (by simp [nothing])]
    simp only [nothing]
    rfl
  · rw [picked, picks_slice_of_not_array start stop step scalar]

/-- A bound that lies before the start of the array stands for the start. -/
theorem run_slice_from_before_start :
    IsBracketed (.slice (some (-9)) none (some 2)) "-9::2".toList ∧
      run "$[-9::2]" (.arr [.str "x", .null, .str "y"]) =
        .ok [⟨[.index 0], .str "x"⟩, ⟨[.index 2], .str "y"⟩] := by
  have parts : "-9::2".toList = ['-', '9'] ++ ':' :: ([] ++ ':' :: ['2']) := by decide +kernel
  have spelled : IsBracketed (.slice (some (-9)) none (some 2)) "-9::2".toList := by
    rw [parts]
    exact .steppedSlice (.negative ⟨by simp, by simp, rfl⟩) .omitted
      (.natural ⟨by simp, by simp, rfl⟩)
  have query : bracketQuery "-9::2".toList = "$[-9::2]" := by decide +kernel
  obtain ⟨-, within, selected⟩ := (run_slice_selects_steps spelled).1 (by decide)
    [.str "x", .null, .str "y"]
  rw [query] at selected
  exact ⟨spelled, selected⟩

end JsonSeek.Query
