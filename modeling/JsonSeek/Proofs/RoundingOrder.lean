import Mathlib.Algebra.Order.Field.Power
import Mathlib.Algebra.Order.Field.Rat
import Mathlib.Tactic.FieldSimp
import Mathlib.Tactic.Positivity
import Mathlib.Tactic.Ring
import JsonSeek.Proofs.Binary64Range

/-!
# Rounding keeps the order

A fraction that is at most another one with the same denominator is rounded to a double that is at
most the other one's (`ble_ofRatio`). Its place is at most that of the greater fraction. At the same
place the mantissas are in order; at a lower place the value ends where the next place begins.
-/

namespace JsonSeek.Binary64

/-! ## Rounding at one place -/

/-- A quotient is rounded down in the lower half of a unit and up in the upper half; in the middle
it goes to the even neighbour. -/
theorem roundDiv_cases (num den : Nat) :
    (2 * (num % den) < den ∧ roundDiv num den = num / den) ∨
      (2 * (num % den) = den ∧ roundDiv num den = num / den + num / den % 2) ∨
      (den < 2 * (num % den) ∧ roundDiv num den = num / den + 1) := by
  simp only [roundDiv]
  split
  · exact .inl ⟨‹_›, rfl⟩
  · split
    · exact .inr (.inr ⟨‹_›, rfl⟩)
    · exact .inr (.inl ⟨by omega, rfl⟩)

theorem div_le_roundDiv (num den : Nat) : num / den ≤ roundDiv num den := by
  rcases roundDiv_cases num den with ⟨-, down⟩ | ⟨-, tie⟩ | ⟨-, up⟩ <;> omega

theorem roundDiv_le_succ (num den : Nat) : roundDiv num den ≤ num / den + 1 := by
  rcases roundDiv_cases num den with ⟨-, down⟩ | ⟨-, tie⟩ | ⟨-, up⟩ <;> omega

theorem roundDiv_mono {num num' : Nat} (le : num ≤ num') (den : Nat) :
    roundDiv num den ≤ roundDiv num' den := by
  rcases Nat.lt_or_eq_of_le (Nat.div_le_div_right (c := den) le) with less | same
  · calc roundDiv num den
        ≤ num / den + 1 := roundDiv_le_succ num den
      _ ≤ num' / den := less
      _ ≤ roundDiv num' den := div_le_roundDiv num' den
  · have whole := Nat.div_add_mod num den
    have whole' := Nat.div_add_mod num' den
    have rounded := roundDiv_cases num den
    have rounded' := roundDiv_cases num' den
    rw [← same] at whole' rounded'
    omega

theorem roundDiv_shiftedFraction_mono {num num' : Nat} (le : num ≤ num') (den : Nat)
    (shift : Int) :
    roundDiv (shiftedFraction num den shift).1 (shiftedFraction num den shift).2 ≤
      roundDiv (shiftedFraction num' den shift).1 (shiftedFraction num' den shift).2 := by
  unfold shiftedFraction
  split
  · exact roundDiv_mono (Nat.mul_le_mul_right _ le) _
  · exact roundDiv_mono le _

/-! ## The place of a fraction -/

section

variable {num den : Nat}

theorem leastExponent_le_placeExponent (num den : Nat) : leastExponent ≤ placeExponent num den :=
  Int.le_max_left _ _

theorem shiftedFraction_den_pos (num : Nat) (positive : 0 < den) (shift : Int) :
    0 < (shiftedFraction num den shift).2 := by
  unfold shiftedFraction
  split
  · exact positive
  · exact Nat.mul_pos positive (Nat.two_pow_pos _)

/-- Shifting a fraction by a place is dividing it by the power of two. -/
theorem shiftedFraction_eq (num : Nat) (positive : 0 < den) (shift : Int) :
    ((shiftedFraction num den shift).1 : ℚ) / (shiftedFraction num den shift).2 * 2 ^ shift =
      num / den := by
  have nonzero : (den : ℚ) ≠ 0 := Nat.cast_ne_zero.mpr (Nat.ne_of_gt positive)
  rcases Int.lt_or_le shift 0 with negative | nonneg
  · obtain ⟨n, rfl⟩ := Int.exists_eq_neg_ofNat (Int.le_of_lt negative)
    simp only [shiftedFraction, if_pos negative, Int.natAbs_neg, Int.natAbs_natCast, Nat.pow_eq,
      Nat.cast_mul, Nat.cast_pow, Nat.cast_ofNat, zpow_neg, zpow_natCast]
    field_simp
  · obtain ⟨n, rfl⟩ := Int.eq_ofNat_of_zero_le nonneg
    simp only [shiftedFraction_of_nonneg nonneg, Int.natAbs_natCast, Nat.pow_eq, Nat.cast_mul,
      Nat.cast_pow, Nat.cast_ofNat, zpow_natCast]
    field_simp

/-- A shifted fraction is less than a natural exactly if the fraction is less than the natural at
that place. -/
theorem shiftedFraction_lt_iff (num : Nat) (positive : 0 < den) (shift : Int) (k : Nat) :
    (shiftedFraction num den shift).1 < k * (shiftedFraction num den shift).2 ↔
      (num : ℚ) / den < k * 2 ^ shift := by
  have bottom : (0 : ℚ) < (shiftedFraction num den shift).2 :=
    Nat.cast_pos.mpr (shiftedFraction_den_pos num positive shift)
  have power : (0 : ℚ) < 2 ^ shift := by positivity
  rw [← shiftedFraction_eq num positive shift, mul_lt_mul_iff_left₀ power, div_lt_iff₀ bottom]
  norm_cast

/-- The leading bits of the two parts tell the binade of a fraction up to one. -/
theorem binade_of_log2 (nonzero : num ≠ 0) (positive : 0 < den) :
    (2 : ℚ) ^ (51 + (num.log2 - den.log2 - 52 : Int)) ≤ num / den ∧
      (num : ℚ) / den < 2 ^ (53 + (num.log2 - den.log2 - 52 : Int)) := by
  have top : (2 : ℚ) ^ (num.log2 : Int) ≤ num := by exact_mod_cast Nat.log2_self_le nonzero
  have topEnd : (num : ℚ) < 2 ^ (num.log2 + 1 : Int) := by exact_mod_cast @Nat.lt_log2_self num
  have bottom : (2 : ℚ) ^ (den.log2 : Int) ≤ den := by
    exact_mod_cast Nat.log2_self_le (Nat.ne_of_gt positive)
  have bottomEnd : (den : ℚ) < 2 ^ (den.log2 + 1 : Int) := by exact_mod_cast @Nat.lt_log2_self den
  have some : (0 : ℚ) < den := Nat.cast_pos.mpr positive
  have two : (2 : ℚ) ≠ 0 := by norm_num
  constructor
  · rw [le_div_iff₀ some]
    calc (2 : ℚ) ^ (51 + (num.log2 - den.log2 - 52 : Int)) * den
        ≤ 2 ^ (51 + (num.log2 - den.log2 - 52 : Int)) * 2 ^ (den.log2 + 1 : Int) :=
          mul_le_mul_of_nonneg_left bottomEnd.le (by positivity)
      _ = 2 ^ (num.log2 : Int) := by
          rw [← zpow_add₀ two]
          congr 1
          omega
      _ ≤ num := top
  · rw [div_lt_iff₀ some]
    calc (num : ℚ)
        < 2 ^ (num.log2 + 1 : Int) := topEnd
      _ = 2 ^ (53 + (num.log2 - den.log2 - 52 : Int)) * 2 ^ (den.log2 : Int) := by
          rw [← zpow_add₀ two]
          congr 1
          omega
      _ ≤ 2 ^ (53 + (num.log2 - den.log2 - 52 : Int)) * den :=
          mul_le_mul_of_nonneg_left bottom (by positivity)

/-- A fraction shifted to a place has at most so many bits exactly if it lies below that power. -/
theorem shiftedFraction_lt_pow_iff (num : Nat) (positive : 0 < den) (place : Int) (bits : Nat) :
    (shiftedFraction num den place).1 / (shiftedFraction num den place).2 < Nat.pow 2 bits ↔
      (num : ℚ) / den < 2 ^ (bits + place) := by
  have two : (2 : ℚ) ≠ 0 := by norm_num
  rw [Nat.div_lt_iff_lt_mul (shiftedFraction_den_pos num positive place),
    shiftedFraction_lt_iff num positive, Nat.pow_eq, Nat.cast_pow, Nat.cast_ofNat, ← zpow_natCast,
    ← zpow_add₀ two]

/-- The leading bit of a fraction stands 52 places above its own place, unless the fraction is so
small that the least place takes the part of that place. -/
theorem exists_leading (nonzero : num ≠ 0) (positive : 0 < den) :
    ∃ place, placeExponent num den = max leastExponent place ∧
      (2 : ℚ) ^ (52 + place) ≤ num / den ∧ (num : ℚ) / den < 2 ^ (53 + place) := by
  obtain ⟨lower, upper⟩ := binade_of_log2 nonzero positive
  have middle := shiftedFraction_lt_pow_iff num positive (num.log2 - den.log2 - 52) 52
  by_cases short : (shiftedFraction num den (num.log2 - den.log2 - 52)).1 /
      (shiftedFraction num den (num.log2 - den.log2 - 52)).2 < Nat.pow 2 52
  · refine ⟨num.log2 - den.log2 - 52 - 1, ?_, ?_, ?_⟩
    · simp only [placeExponent, if_pos short]
    · convert lower using 2
      omega
    · convert middle.mp short using 2
      omega
  · refine ⟨num.log2 - den.log2 - 52, ?_, ?_, upper⟩
    · simp only [placeExponent, if_neg short]
    · exact not_lt.mp (mt middle.mpr short)

theorem placeExponent_mono {num' : Nat} (nonzero : num ≠ 0) (le : num ≤ num') (positive : 0 < den) :
    placeExponent num den ≤ placeExponent num' den := by
  obtain ⟨place, eq, lower, -⟩ := exists_leading nonzero positive
  obtain ⟨place', eq', -, upper⟩ := exists_leading (Nat.ne_of_gt (Nat.lt_of_lt_of_le
    (Nat.pos_of_ne_zero nonzero) le)) positive
  have order : (num : ℚ) / den ≤ num' / den :=
    div_le_div_of_nonneg_right (Nat.cast_le.mpr le) (Nat.cast_nonneg den)
  have powers := (zpow_lt_zpow_iff_right₀ (by norm_num : (1 : ℚ) < 2)).mp
    (lower.trans_lt (order.trans_lt upper))
  omega

/-- The mantissa of a fraction, rounded at its place. -/
def roundedMantissa (num den : Nat) : Nat :=
  roundDiv (shiftedFraction num den (placeExponent num den)).1
    (shiftedFraction num den (placeExponent num den)).2

theorem ofRatio_eq (nonzero : num ≠ 0) (negative : Bool) (den : Nat) :
    ofRatio negative num den = pack negative (roundedMantissa num den) (placeExponent num den) :=
  if_neg nonzero

/-- A rounded mantissa has 53 bits or is the next power of two; it fills them unless the place is
the least one. -/
theorem roundedMantissa_bounds (nonzero : num ≠ 0) (positive : 0 < den) :
    roundedMantissa num den ≤ Nat.pow 2 53 ∧
      (leastExponent < placeExponent num den → Nat.pow 2 52 ≤ roundedMantissa num den) := by
  obtain ⟨place, eq, lower, upper⟩ := exists_leading nonzero positive
  have width := shiftedFraction_lt_pow_iff num positive (placeExponent num den)
  constructor
  · have inside : (num : ℚ) / den < 2 ^ (53 + placeExponent num den) :=
      upper.trans_le (zpow_le_zpow_right₀ (by norm_num) (by omega))
    exact (roundDiv_le_succ _ _).trans ((width 53).mpr inside)
  · intro above
    have same : placeExponent num den = place := by omega
    rw [← same] at lower
    exact (not_lt.mp (mt (width 52).mp lower.not_gt)).trans (div_le_roundDiv _ _)

end

/-! ## Comparing packed mantissas -/

/-- Finite doubles that are not negative are compared by their values. -/
theorem ble_finite_iff {m n : Nat} {e f : Int} :
    ble (finite false m e) (finite false n f) = true ↔ (m : ℚ) * 2 ^ e ≤ n * 2 ^ f := by
  have scaled (mantissa : Nat) {place exponent : Int} (below : place ≤ exponent) :
      (mantissa : ℚ) * 2 ^ exponent =
        (scaledTo place false mantissa exponent : ℚ) * 2 ^ place := by
    have exponents : exponent = (exponent - place).toNat + place := by omega
    have powers := zpow_add₀ (by norm_num : (2 : ℚ) ≠ 0) (exponent - place).toNat place
    rw [← exponents, zpow_natCast] at powers
    simp only [scaledTo, Nat.pow_eq, powers, Bool.false_eq_true, if_false]
    push_cast
    exact (mul_assoc _ _ _).symm
  have power : (0 : ℚ) < 2 ^ min e f := by positivity
  rw [ble_finite_iff_scaledTo, scaled m (Int.min_le_left e f), scaled n (Int.min_le_right e f),
    mul_le_mul_iff_left₀ power, Int.cast_le]

/-- A mantissa at a place lies beyond the greatest double. -/
def IsBeyond (mantissa : Nat) (place : Int) : Prop :=
  greatestExponent < place ∨ place = greatestExponent ∧ mantissa = Nat.pow 2 53

theorem pack_of_isBeyond {mantissa : Nat} {place : Int} (beyond : IsBeyond mantissa place)
    (negative : Bool) : pack negative mantissa place = infinite negative := by
  rcases beyond with above | ⟨rfl, carries⟩
  · exact pack_of_gt above
  · rw [pack_greatestExponent, if_pos carries]

/-- A carry moves the place up and keeps the value. -/
theorem exists_pack_eq_finite {mantissa : Nat} {place : Int} (inside : ¬ IsBeyond mantissa place)
    (negative : Bool) :
    ∃ m e, pack negative mantissa place = finite negative m e ∧
      (m : ℚ) * 2 ^ e = mantissa * 2 ^ place := by
  rw [IsBeyond, not_or, not_and] at inside
  obtain ⟨notAbove, noCarry⟩ := inside
  by_cases carries : mantissa = Nat.pow 2 53
  · have below : ¬ greatestExponent < place + 1 := by
      have other := mt noCarry (not_not_intro carries)
      omega
    refine ⟨Nat.pow 2 52, place + 1, ?_, ?_⟩
    · simp only [pack, if_pos carries, if_neg below]
    · rw [zpow_add_one₀ (by norm_num), carries]
      norm_num
      ring
  · refine ⟨mantissa, place, ?_, rfl⟩
    simp only [pack, if_neg carries, if_neg notAbove]

/-- Packed mantissas are in order if their places are, or at one place the mantissas. -/
theorem ble_pack {m n : Nat} {e f : Int} (bound : m ≤ Nat.pow 2 53) (bound' : n ≤ Nat.pow 2 53)
    (order : e < f ∧ Nat.pow 2 52 ≤ n ∨ e = f ∧ m ≤ n) :
    ble (pack false m e) (pack false n f) = true := by
  by_cases beyond' : IsBeyond n f
  · rw [pack_of_isBeyond beyond']
    by_cases beyond : IsBeyond m e
    · rw [pack_of_isBeyond beyond]
      rfl
    · obtain ⟨m', e', packed, -⟩ := exists_pack_eq_finite beyond false
      rw [packed]
      rfl
  · have inside : ¬ IsBeyond m e := by
      unfold IsBeyond at beyond' ⊢
      omega
    obtain ⟨m', e', packed, value⟩ := exists_pack_eq_finite inside false
    obtain ⟨n', f', packed', value'⟩ := exists_pack_eq_finite beyond' false
    rw [packed, packed', ble_finite_iff, value, value']
    rcases order with ⟨before, full⟩ | ⟨rfl, le⟩
    · have most : (m : ℚ) ≤ 2 ^ 53 := by exact_mod_cast bound
      have least : (2 : ℚ) ^ 52 ≤ n := by exact_mod_cast full
      calc (m : ℚ) * 2 ^ e
          ≤ 2 ^ 53 * 2 ^ e := mul_le_mul_of_nonneg_right most (by positivity)
        _ = 2 ^ 52 * 2 ^ (e + 1) := by
            rw [zpow_add_one₀ (by norm_num)]
            ring
        _ ≤ n * 2 ^ f := mul_le_mul least (zpow_le_zpow_right₀ (by norm_num) before)
            (by positivity) (by positivity)
    · exact mul_le_mul_of_nonneg_right (Nat.cast_le.mpr le) (by positivity)

/-- The double nearest to a fraction is at most the one nearest to a greater fraction. -/
theorem ble_ofRatio {num num' den : Nat} (le : num ≤ num') (positive : 0 < den) :
    ble (ofRatio false num den) (ofRatio false num' den) = true := by
  by_cases zero : num = 0
  · rw [zero]
    exact zero_ble_ofRatio num' den
  · have some : num' ≠ 0 := Nat.ne_of_gt (Nat.lt_of_lt_of_le (Nat.pos_of_ne_zero zero) le)
    obtain ⟨bound, -⟩ := roundedMantissa_bounds zero positive
    obtain ⟨bound', full⟩ := roundedMantissa_bounds some positive
    rw [ofRatio_eq zero, ofRatio_eq some]
    refine ble_pack bound bound' ?_
    rcases Int.lt_or_eq_of_le (placeExponent_mono zero le positive) with before | same
    · exact .inl ⟨before, full (Int.lt_of_le_of_lt (leastExponent_le_placeExponent num den) before)⟩
    · refine .inr ⟨same, ?_⟩
      rw [roundedMantissa, roundedMantissa, same]
      exact roundDiv_shiftedFraction_mono le den _

end JsonSeek.Binary64
