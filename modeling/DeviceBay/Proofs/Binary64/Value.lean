import DeviceBay.Binary64.Integral
import Mathlib.Data.Rat.Floor
import Mathlib.Tactic.Ring

/-
  This file defines the exact rational number that the bits of
  a finite number denote, by its sign, its significand and its
  exponent, and proves that counts of smallest positive numbers
  are these values. The bits are determined by the fields.

  Key definitions include:
    * `Binary64.negInfinity`
    * `Binary64.significand`
    * `Binary64.scale`
    * `Binary64.value`

  Main declarations:
    * `Binary64.bits_eq_fields`
    * `Binary64.fields_of_bits`
    * `Binary64.cases_of_not_finite`
    * `Binary64.value_eq_quanta_div`
    * `Binary64.abs_value`
-/

namespace DeviceBay.Binary64

------------------------------------------------------------
-- Fields
------------------------------------------------------------

theorem signBit_eq :
    signBit = 9223372036854775808 :=
  rfl

theorem fractionCount_eq :
    fractionCount = 4503599627370496 :=
  rfl

theorem exponentField_lt
    (x : Binary64) :
    x.exponentField < 2048 :=
  Nat.mod_lt _ (by decide)

theorem fractionField_lt
    (x : Binary64) :
    x.fractionField < fractionCount :=
  Nat.mod_lt _ (by decide)

/- The bits are those of the sign, the exponent and the fraction. -/
theorem bits_eq_fields
    (x : Binary64) :
    x.bits.toNat =
      (if x.isNegative then signBit else 0) +
        x.exponentField * fractionCount + x.fractionField := by
  have hWord := x.bits.toNat_lt
  simp only [isNegative, exponentField, fractionField,
    signBit_eq, fractionCount_eq]
  by_cases hSign : 9223372036854775808 ≤ x.bits.toNat
  · simp only [hSign, decide_true, if_true]
    omega
  · simp only [hSign, decide_false, Bool.false_eq_true, if_false]
    omega

/- Each field can be read off bits that are put together from them. -/
theorem fields_of_bits
    {x : Binary64}
    {negative : Bool}
    {exponent fraction : Nat}
    (hExponent : exponent < 2048)
    (hFraction : fraction < fractionCount)
    (hBits :
      x.bits.toNat =
        (if negative then signBit else 0) +
          exponent * fractionCount + fraction) :
    x.isNegative = negative ∧
      x.exponentField = exponent ∧
        x.fractionField = fraction := by
  rw [fractionCount_eq] at hFraction
  simp only [isNegative, exponentField, fractionField,
    hBits, signBit_eq, fractionCount_eq]
  cases negative with
  | false =>
      refine ⟨decide_eq_false (by simp; omega), ?_, ?_⟩
      · simp
        omega
      · simp
        omega
  | true =>
      refine ⟨decide_eq_true (by simp; omega), ?_, ?_⟩
      · simp
        omega
      · simp
        omega

theorem eq_of_bits
    {x y : Binary64}
    (hBits : x.bits.toNat = y.bits.toNat) :
    x = y := by
  cases x
  cases y
  exact congrArg Binary64.mk (UInt64.toNat_inj.mp hBits)

theorem eq_of_fields
    {x y : Binary64}
    (hSign : x.isNegative = y.isNegative)
    (hExponent : x.exponentField = y.exponentField)
    (hFraction : x.fractionField = y.fractionField) :
    x = y := by
  apply eq_of_bits
  rw [x.bits_eq_fields, y.bits_eq_fields, hSign, hExponent,
    hFraction]

------------------------------------------------------------
-- Numbers that are not finite
------------------------------------------------------------

def negInfinity : Binary64 :=
  ⟨0xfff0000000000000⟩

theorem isFinite_iff
    (x : Binary64) :
    x.isFinite = true ↔ x.exponentField ≠ 2047 := by
  rw [isFinite, bne_iff_ne]

/- What is not finite is infinite, on either side, or no number. -/
theorem cases_of_not_finite
    {x : Binary64}
    (hFinite : x.isFinite = false) :
    x.isNaN = true ∨ x = infinity ∨ x = negInfinity := by
  have hExponent : x.exponentField = 2047 := by
    rw [isFinite, bne_eq_false_iff_eq] at hFinite
    exact hFinite
  by_cases hFraction : x.fractionField = 0
  · right
    cases hSign : x.isNegative with
    | false => exact Or.inl (eq_of_fields hSign hExponent hFraction)
    | true => exact Or.inr (eq_of_fields hSign hExponent hFraction)
  · left
    simp [isNaN, hExponent, hFraction]

theorem not_isNaN_of_finite
    {x : Binary64}
    (hFinite : x.isFinite = true) :
    x.isNaN = false := by
  rw [isFinite_iff] at hFinite
  simp [isNaN, hFinite]

------------------------------------------------------------
-- Values
------------------------------------------------------------

/-
  The whole number that the fraction stands for. The leading
  bit is not written, and is one unless the exponent is zero.
-/
def significand
    (x : Binary64) : Nat :=
  if x.exponentField = 0 then
    x.fractionField
  else
    fractionCount + x.fractionField

/- The exponent of the power of two that a significand counts. -/
def scale
    (x : Binary64) : Int :=
  max (x.exponentField : Int) 1 - 1075

/- The exact value of a finite number. -/
def value
    (x : Binary64) : ℚ :=
  (if x.isNegative then -1 else 1) * x.significand * 2 ^ x.scale

/- The number of places after the binary point that are in use. -/
def places : Nat :=
  1074

theorem unit_eq :
    unit = 2 ^ places :=
  Nat.one_shiftLeft places

theorem unit_pos :
    0 < unit := by
  rw [unit_eq]
  exact Nat.two_pow_pos places

theorem significand_lt
    (x : Binary64) :
    x.significand < 2 * fractionCount := by
  have hFraction := x.fractionField_lt
  unfold significand
  split <;> omega

theorem magnitude_eq
    (x : Binary64) :
    x.magnitude = x.significand * 2 ^ (x.exponentField - 1) := by
  unfold magnitude significand
  split
  case isTrue hExponent => simp [hExponent]
  case isFalse => rw [Nat.shiftLeft_eq]

/- A count of smallest positive numbers, as a distance from zero. -/
theorem magnitude_div_unit
    (x : Binary64) :
    (x.magnitude : ℚ) / unit = x.significand * 2 ^ x.scale := by
  have hScale :
      x.scale = ((x.exponentField - 1 : Nat) : Int) - places := by
    unfold scale places
    omega
  rw [magnitude_eq, unit_eq, hScale, zpow_sub₀ two_ne_zero,
    zpow_natCast, zpow_natCast]
  push_cast
  exact mul_div_assoc _ _ _

theorem value_eq
    (x : Binary64) :
    x.value =
      (if x.isNegative then -1 else 1) * (x.magnitude / unit) := by
  rw [value, magnitude_div_unit, mul_assoc]

theorem value_eq_quanta_div
    (x : Binary64) :
    x.value = x.quanta / unit := by
  rw [value_eq]
  unfold quanta
  split
  · rw [Int.cast_neg, Int.cast_natCast, neg_div, neg_one_mul]
  · rw [Int.cast_natCast, one_mul]

theorem abs_value
    (x : Binary64) :
    |x.value| = x.magnitude / unit := by
  have hDistance : (0 : ℚ) ≤ x.magnitude / unit := by
    positivity
  have hSign : |(if x.isNegative then -1 else 1 : ℚ)| = 1 := by
    split <;> simp
  rw [value_eq, abs_mul, hSign, one_mul, abs_of_nonneg hDistance]

/- Without a leading bit a number is next to zero. -/
theorem abs_value_lt_one
    {x : Binary64}
    (hExponent : x.exponentField = 0) :
    |x.value| < 1 := by
  have hUnit : fractionCount ≤ unit := by
    decide +kernel
  have hMagnitude : x.magnitude < unit := by
    rw [magnitude, if_pos hExponent]
    exact x.fractionField_lt.trans_le hUnit
  rw [abs_value, div_lt_one (Nat.cast_pos.mpr unit_pos)]
  exact Nat.cast_lt.mpr hMagnitude

end DeviceBay.Binary64
