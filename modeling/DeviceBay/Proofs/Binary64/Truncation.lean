import DeviceBay.Proofs.Binary64.Value

/-
  This file proves which signed word a number becomes, for all
  of its bit patterns: its exact value rounded toward zero, as
  far as signed words reach, and zero if it has no value.

  Key definitions include:
    * `towardZero`
    * `Binary64.RoundsTo`

  Main declarations:
    * `Binary64.truncate_eq_towardZero`
    * `Binary64.roundsTo_toInt32`
    * `Binary64.RoundsTo.unique`
    * `Binary64.roundsTo_iff`
-/

namespace DeviceBay

------------------------------------------------------------
-- Rounding toward zero
------------------------------------------------------------

/- The whole number next to a fraction on the side of zero. -/
def towardZero
    (q : ℚ) : Int :=
  if 0 ≤ q then ⌊q⌋ else ⌈q⌉

/- A division of whole numbers that drops the rest does so. -/
theorem tdiv_eq_towardZero
    (n : Int)
    {d : Nat}
    (hPos : 0 < d) :
    n.tdiv d = towardZero (n / d) := by
  have hDivisor : (0 : ℚ) < d := Nat.cast_pos.mpr hPos
  by_cases hSign : 0 ≤ n
  · have hQuotient : (0 : ℚ) ≤ n / d :=
      div_nonneg (Int.cast_nonneg hSign) hDivisor.le
    rw [towardZero, if_pos hQuotient,
      Rat.floor_intCast_div_natCast,
      Int.tdiv_eq_ediv_of_nonneg hSign]
  · have hNegative : n < 0 := Int.not_le.mp hSign
    have hQuotient : ¬ (0 : ℚ) ≤ n / d :=
      not_le.mpr
        (div_neg_of_neg_of_pos (Int.cast_lt_zero.mpr hNegative)
          hDivisor)
    have hOpposite : (-n).tdiv d = -n / d :=
      Int.tdiv_eq_ediv_of_nonneg (by omega)
    rw [towardZero, if_neg hQuotient, Rat.ceil_intCast_div_natCast,
      ← hOpposite, Int.neg_tdiv, Int.neg_neg]

theorem towardZero_of_abs_lt_one
    {q : ℚ}
    (hSmall : |q| < 1) :
    towardZero q = 0 := by
  rcases abs_lt.mp hSmall with ⟨hAbove, hBelow⟩
  unfold towardZero
  split
  case isTrue hSign => exact Int.floor_eq_zero_iff.mpr ⟨hSign, hBelow⟩
  case isFalse hSign =>
    exact Int.ceil_eq_zero_iff.mpr ⟨hAbove, (not_le.mp hSign).le⟩

theorem le_towardZero
    {q : ℚ}
    {n : Int}
    (hLe : (n : ℚ) ≤ q) :
    n ≤ towardZero q := by
  unfold towardZero
  split
  case isTrue => exact Int.le_floor.mpr hLe
  case isFalse => exact Int.cast_le.mp (hLe.trans (Int.le_ceil q))

theorem towardZero_le
    {q : ℚ}
    {n : Int}
    (hLe : q ≤ n) :
    towardZero q ≤ n := by
  unfold towardZero
  split
  case isTrue => exact Int.cast_le.mp ((Int.floor_le q).trans hLe)
  case isFalse => exact Int.ceil_le.mpr hLe

namespace Binary64

/- A finite number is rounded toward zero. -/
theorem truncate_eq_towardZero
    (x : Binary64) :
    x.truncate = towardZero x.value := by
  rw [truncate, tdiv_eq_towardZero x.quanta unit_pos,
    value_eq_quanta_div]

------------------------------------------------------------
-- Signed words
------------------------------------------------------------

/-
  The signed word that a number becomes. Each number has a
  value between the two ends of the range, one that is at an
  end or past it, an infinite one, or none. The two zeros and
  the numbers without a leading bit all become zero.
-/
structure RoundsTo
    (x : Binary64)
    (n : Int32) : Prop where
  nan (hNaN : x.isNaN = true) : n = 0
  tiny (hExponent : x.exponentField = 0) : n = 0
  above (hAbove :
      x = infinity ∨
        (x.isFinite = true ∧ 2 ^ 31 - 1 ≤ x.value)) :
      n = Int32.maxValue
  below (hBelow :
      x = negInfinity ∨
        (x.isFinite = true ∧ x.value ≤ -2 ^ 31)) :
      n = Int32.minValue
  between (hFinite : x.isFinite = true)
      (hLeft : -2 ^ 31 < x.value)
      (hRight : x.value < 2 ^ 31 - 1) :
      n.toInt = towardZero x.value

/- What does not fit into a word counts as the end it is next to. -/
theorem toInt_toInt32
    {x : Binary64}
    (hValue : x.isNaN = false) :
    x.toInt32.toInt =
      max (-2147483648) (min 2147483647 x.truncate) := by
  rw [toInt32, hValue, if_neg Bool.false_ne_true,
    Int32.toInt_ofInt_of_le (by omega) (by omega)]

theorem toInt32_of_le
    {x : Binary64}
    (hFinite : x.isFinite = true)
    (hAbove : 2 ^ 31 - 1 ≤ x.value) :
    x.toInt32 = Int32.maxValue := by
  have hTruncated : 2147483647 ≤ towardZero x.value := by
    apply le_towardZero
    norm_num at hAbove ⊢
    exact hAbove
  apply Int32.toInt_inj.mp
  rw [toInt_toInt32 (not_isNaN_of_finite hFinite),
    truncate_eq_towardZero, min_eq_left hTruncated]
  rfl

theorem toInt32_of_ge
    {x : Binary64}
    (hFinite : x.isFinite = true)
    (hBelow : x.value ≤ -2 ^ 31) :
    x.toInt32 = Int32.minValue := by
  have hTruncated : towardZero x.value ≤ -2147483648 := by
    apply towardZero_le
    norm_num at hBelow ⊢
    exact hBelow
  apply Int32.toInt_inj.mp
  rw [toInt_toInt32 (not_isNaN_of_finite hFinite),
    truncate_eq_towardZero, max_eq_left (by omega)]
  rfl

theorem toInt_toInt32_of_between
    {x : Binary64}
    (hFinite : x.isFinite = true)
    (hLeft : -2 ^ 31 < x.value)
    (hRight : x.value < 2 ^ 31 - 1) :
    x.toInt32.toInt = towardZero x.value := by
  have hLower : -2147483648 ≤ towardZero x.value := by
    apply le_towardZero
    norm_num at hLeft ⊢
    exact hLeft.le
  have hUpper : towardZero x.value ≤ 2147483647 := by
    apply towardZero_le
    norm_num at hRight ⊢
    exact hRight.le
  rw [toInt_toInt32 (not_isNaN_of_finite hFinite),
    truncate_eq_towardZero, min_eq_right hUpper,
    max_eq_right hLower]

theorem toInt32_of_exponentField
    {x : Binary64}
    (hExponent : x.exponentField = 0) :
    x.toInt32 = 0 := by
  have hFinite : x.isFinite = true := by
    rw [isFinite_iff, hExponent]
    decide
  have hTruncated : x.truncate = 0 := by
    rw [truncate_eq_towardZero]
    exact towardZero_of_abs_lt_one (abs_value_lt_one hExponent)
  apply Int32.toInt_inj.mp
  rw [toInt_toInt32 (not_isNaN_of_finite hFinite), hTruncated]
  rfl

theorem roundsTo_toInt32
    (x : Binary64) :
    x.RoundsTo x.toInt32 := by
  constructor
  case nan =>
    intro hNaN
    rw [toInt32, hNaN, if_pos rfl]
  case tiny => exact toInt32_of_exponentField
  case above =>
    rintro (rfl | ⟨hFinite, hAbove⟩)
    · decide +kernel
    · exact toInt32_of_le hFinite hAbove
  case below =>
    rintro (rfl | ⟨hFinite, hBelow⟩)
    · decide +kernel
    · exact toInt32_of_ge hFinite hBelow
  case between => exact toInt_toInt32_of_between

/- There is only one such word. -/
theorem RoundsTo.unique
    {x : Binary64}
    {m n : Int32}
    (hLeft : x.RoundsTo m)
    (hRight : x.RoundsTo n) :
    m = n := by
  cases hFinite : x.isFinite with
  | false =>
      rcases cases_of_not_finite hFinite with hNaN | hTop | hBottom
      · rw [hLeft.nan hNaN, hRight.nan hNaN]
      · rw [hLeft.above (Or.inl hTop), hRight.above (Or.inl hTop)]
      · rw [hLeft.below (Or.inl hBottom),
          hRight.below (Or.inl hBottom)]
  | true =>
      by_cases hAbove : 2 ^ 31 - 1 ≤ x.value
      · rw [hLeft.above (Or.inr ⟨hFinite, hAbove⟩),
          hRight.above (Or.inr ⟨hFinite, hAbove⟩)]
      · by_cases hBelow : x.value ≤ -2 ^ 31
        · rw [hLeft.below (Or.inr ⟨hFinite, hBelow⟩),
            hRight.below (Or.inr ⟨hFinite, hBelow⟩)]
        · have hBetween := not_le.mp hBelow
          apply Int32.toInt_inj.mp
          rw [hLeft.between hFinite hBetween (not_le.mp hAbove),
            hRight.between hFinite hBetween (not_le.mp hAbove)]

theorem roundsTo_iff
    (x : Binary64)
    (n : Int32) :
    x.RoundsTo n ↔ n = x.toInt32 := by
  constructor
  · intro hRounds
    exact hRounds.unique x.roundsTo_toInt32
  · rintro rfl
    exact x.roundsTo_toInt32

end Binary64

end DeviceBay
