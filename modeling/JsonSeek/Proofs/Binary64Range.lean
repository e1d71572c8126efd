import JsonSeek.Binary64.Basic

/-!
# The range of doubles

An integer has a nearest double exactly if its absolute value is less than `overflowBound`, half a
place above the greatest double. That bound itself is a tie, and the even neighbour of the greatest
mantissa lies beyond the range.
-/

namespace JsonSeek.Binary64

/-- The end of the binade whose last place is `2 ^ (k + 1)`, less half a place. -/
def binadeBound (k : Nat) : Nat := Nat.pow 2 (53 + (k + 1)) - Nat.pow 2 k

/-- The least natural without a nearest double, `2 ^ 1024 - 2 ^ 970`. -/
def overflowBound : Nat := binadeBound 970

theorem shiftedFraction_of_nonneg {num den : Nat} {shift : Int} (nonneg : 0 ≤ shift) :
    shiftedFraction num den shift = (num, den * Nat.pow 2 shift.natAbs) :=
  if_neg (by omega)

theorem placeExponent_le (num den : Nat) :
    placeExponent num den ≤ max leastExponent ((num.log2 : Int) - den.log2 - 52) := by
  simp only [placeExponent]
  split <;> omega

/-- The leading bits of a natural give the place exactly. -/
theorem placeExponent_one {n : Nat} (nonzero : n ≠ 0) (long : 52 ≤ n.log2) :
    placeExponent n 1 = (n.log2 : Int) - 52 := by
  have one : Nat.log2 1 = 0 := rfl
  have nonneg : 0 ≤ (n.log2 : Int) - (Nat.log2 1 : Nat) - 52 := by omega
  have shift : ((n.log2 : Int) - (Nat.log2 1 : Nat) - 52).natAbs = n.log2 - 52 := by omega
  have full : ¬ n / (1 * Nat.pow 2 (n.log2 - 52)) < Nat.pow 2 52 := by
    have positive : 0 < Nat.pow 2 (n.log2 - 52) := Nat.two_pow_pos _
    rw [Nat.not_lt, Nat.one_mul, Nat.le_div_iff_mul_le positive]
    calc Nat.pow 2 52 * Nat.pow 2 (n.log2 - 52)
        = Nat.pow 2 (52 + (n.log2 - 52)) := (Nat.pow_add 2 52 _).symm
      _ = Nat.pow 2 n.log2 := by rw [Nat.add_sub_cancel' long]
      _ ≤ n := Nat.log2_self_le nonzero
  simp only [placeExponent, shiftedFraction_of_nonneg nonneg, shift, if_neg full, leastExponent]
  omega

theorem pack_of_lt {negative : Bool} {mantissa : Nat} {place : Int}
    (inside : place < greatestExponent) :
    ∃ m e, pack negative mantissa place = finite negative m e := by
  by_cases carries : mantissa = Nat.pow 2 53
  · exact ⟨_, _, by simp only [pack, if_pos carries]; exact if_neg (by omega)⟩
  · exact ⟨_, _, by simp only [pack, if_neg carries]; exact if_neg (by omega)⟩

/-- At the last place a mantissa is out of range exactly if it carries. -/
theorem pack_greatestExponent (negative : Bool) (mantissa : Nat) :
    pack negative mantissa greatestExponent =
      if mantissa = Nat.pow 2 53 then infinite negative
      else finite negative mantissa greatestExponent := by
  by_cases carries : mantissa = Nat.pow 2 53
  · simp only [pack, if_pos carries]
    exact if_pos (by omega)
  · simp only [pack, if_neg carries]
    exact if_neg (by omega)

theorem pack_of_gt {negative : Bool} {mantissa : Nat} {place : Int}
    (beyond : greatestExponent < place) : pack negative mantissa place = infinite negative := by
  by_cases carries : mantissa = Nat.pow 2 53
  · simp only [pack, if_pos carries]
    exact if_pos (by omega)
  · simp only [pack, if_neg carries]
    exact if_pos beyond

/-- A number below an even end is rounded up to that end from half a place before it on. -/
theorem roundDiv_eq_iff {n unit stop : Nat} (positive : 0 < unit) (bound : n < stop * (2 * unit))
    (even : stop % 2 = 0) : roundDiv n (2 * unit) = stop ↔ stop * (2 * unit) - unit ≤ n := by
  have whole := Nat.div_add_mod n (2 * unit)
  have part : n % (2 * unit) < 2 * unit := Nat.mod_lt _ (by omega)
  have inside : n / (2 * unit) < stop := (Nat.div_lt_iff_lt_mul (by omega)).mpr bound
  rw [Nat.mul_comm stop]
  rcases Nat.lt_or_eq_of_le inside with before | last
  · have gap : 2 * unit * (n / (2 * unit) + 1 + 1) ≤ 2 * unit * stop := Nat.mul_le_mul_left _ before
    have small : roundDiv n (2 * unit) ≤ n / (2 * unit) + 1 := by
      simp only [roundDiv]
      split
      · omega
      · split <;> omega
    rw [Nat.mul_succ, Nat.mul_succ] at gap
    omega
  · rw [← last, Nat.mul_succ]
    simp only [roundDiv]
    split
    · omega
    · split <;> omega

theorem roundDiv_pow_eq_iff {n k : Nat} (inside : n < Nat.pow 2 (53 + (k + 1))) :
    roundDiv n (Nat.pow 2 (k + 1)) = Nat.pow 2 53 ↔ binadeBound k ≤ n := by
  have double : Nat.pow 2 (k + 1) = 2 * Nat.pow 2 k := Nat.pow_succ'
  have whole : Nat.pow 2 (53 + (k + 1)) = Nat.pow 2 53 * Nat.pow 2 (k + 1) :=
    Nat.pow_add 2 53 (k + 1)
  rw [binadeBound, whole, double]
  rw [whole, double] at inside
  exact roundDiv_eq_iff (Nat.two_pow_pos k) inside rfl

theorem pow_le_binadeBound (k : Nat) : Nat.pow 2 (52 + (k + 1)) ≤ binadeBound k := by
  have double : Nat.pow 2 (53 + (k + 1)) = 2 * Nat.pow 2 (52 + (k + 1)) := by
    have longer : 53 + (k + 1) = 52 + (k + 1) + 1 := by omega
    rw [longer]
    exact Nat.pow_succ'
  have smaller : Nat.pow 2 k ≤ Nat.pow 2 (52 + (k + 1)) :=
    Nat.pow_le_pow_right Nat.two_pos (by omega)
  rw [binadeBound]
  omega

/-! ## Integers -/

theorem ofRatio_of_lt {negative : Bool} {num den : Nat}
    (inside : placeExponent num den < greatestExponent) :
    ∃ m e, ofRatio negative num den = finite negative m e := by
  by_cases zero : num = 0
  · exact ⟨0, leastExponent, if_pos zero⟩
  · obtain ⟨m, e, packed⟩ := @pack_of_lt negative
      (roundDiv (shiftedFraction num den (placeExponent num den)).1
        (shiftedFraction num den (placeExponent num den)).2) _ inside
    exact ⟨m, e, (if_neg zero).trans packed⟩

/-- An integer of more than 52 bits loses those behind the leading ones in a single rounding. -/
theorem ofInt_of_long {n : Int} {extra : Nat} (long : n.natAbs.log2 = extra + 52) :
    ofInt n = pack (n < 0) (roundDiv n.natAbs (Nat.pow 2 extra)) extra := by
  have nonzero : n.natAbs ≠ 0 := by
    intro zero
    simp [zero] at long
  have place : placeExponent n.natAbs 1 = extra := by
    rw [placeExponent_one nonzero (by omega)]
    omega
  have shift := @shiftedFraction_of_nonneg n.natAbs 1 extra (by omega)
  rw [Nat.one_mul, Int.natAbs_natCast] at shift
  simp only [ofInt, ofRatio, if_neg nonzero, place, shift]

theorem ofInt?_eq_none_of_infinite {n : Int} {negative : Bool}
    (beyond : ofInt n = infinite negative) : ofInt? n = none := by
  rw [ofInt?, beyond]

theorem ofInt?_ne_none_of_finite {n : Int} {negative : Bool} {m : Nat} {e : Int}
    (inside : ofInt n = finite negative m e) : ofInt? n ≠ none := by
  rw [ofInt?, inside]
  exact Option.some_ne_none _

/-- The range ends half a place below the end of the last binade. -/
theorem ofInt?_eq_none_iff_of_greatest {k : Nat} (last : (k + 1 : Nat) = greatestExponent)
    (n : Int) : ofInt? n = none ↔ binadeBound k ≤ n.natAbs := by
  have short (length : Nat) (enough : n.natAbs.log2 < length) : n.natAbs < Nat.pow 2 length :=
    Nat.lt_of_lt_of_le Nat.lt_log2_self (Nat.pow_le_pow_right Nat.two_pos enough)
  rcases Nat.lt_trichotomy n.natAbs.log2 (52 + (k + 1)) with below | same | above
  · have small := Nat.lt_of_lt_of_le (short _ below) (pow_le_binadeBound k)
    have inside : placeExponent n.natAbs 1 < greatestExponent := by
      have place := placeExponent_le n.natAbs 1
      simp only [leastExponent] at place
      omega
    obtain ⟨m, e, rounded⟩ := ofRatio_of_lt inside
    exact iff_of_false (ofInt?_ne_none_of_finite rounded) (Nat.not_le_of_lt small)
  · have rounded := @ofInt_of_long n (k + 1) (by omega)
    have carries := roundDiv_pow_eq_iff (short (53 + (k + 1)) (by omega))
    rw [last, pack_greatestExponent] at rounded
    rw [← carries]
    by_cases carry : roundDiv n.natAbs (Nat.pow 2 (k + 1)) = Nat.pow 2 53
    · exact iff_of_true (ofInt?_eq_none_of_infinite (rounded.trans (if_pos carry))) carry
    · exact iff_of_false (ofInt?_ne_none_of_finite (rounded.trans (if_neg carry))) carry
  · have nonzero : n.natAbs ≠ 0 := by
      intro zero
      rw [zero] at above
      cases above
    have full : Nat.pow 2 (53 + (k + 1)) ≤ n.natAbs :=
      Nat.le_trans (Nat.pow_le_pow_right Nat.two_pos (by omega)) (Nat.log2_self_le nonzero)
    obtain ⟨extra, long⟩ := Nat.exists_eq_add_of_le' (by omega : 52 ≤ n.natAbs.log2)
    have beyond : greatestExponent < extra := by omega
    have rounded := (ofInt_of_long long).trans (pack_of_gt beyond)
    exact iff_of_true (ofInt?_eq_none_of_infinite rounded) (Nat.le_trans (Nat.sub_le _ _) full)

/-- An integer has no nearest double exactly from half a place above the greatest double on. -/
theorem ofInt?_eq_none_iff (n : Int) : ofInt? n = none ↔ overflowBound ≤ n.natAbs :=
  ofInt?_eq_none_iff_of_greatest rfl n

/-! ## Rounding keeps the sign -/

/-- Finite doubles are compared by their mantissas, scaled to the lower place. -/
theorem ble_finite_iff_scaledTo {s t : Bool} {m n : Nat} {e f : Int} :
    ble (finite s m e) (finite t n f) = true ↔
      scaledTo (min e f) s m e ≤ scaledTo (min e f) t n f := by
  rw [← Int.isLE_compare]
  simp only [ble, compare?]
  cases compare (scaledTo (min e f) s m e) (scaledTo (min e f) t n f) <;> decide

theorem zero_ble_finite (mantissa : Nat) (exponent : Int) :
    ble zero (finite false mantissa exponent) = true := by
  refine ble_finite_iff_scaledTo.mpr (Int.ofNat_le.mpr ?_)
  rw [Nat.zero_mul]
  exact Nat.zero_le _

theorem zero_ble_pack (mantissa : Nat) (place : Int) :
    ble zero (pack false mantissa place) = true := by
  unfold pack
  split
  split
  · rfl
  · exact zero_ble_finite _ _

theorem zero_ble_ofRatio (num den : Nat) : ble zero (ofRatio false num den) = true := by
  unfold ofRatio
  split
  · exact zero_ble_finite 0 leastExponent
  · exact zero_ble_pack _ _

end JsonSeek.Binary64
