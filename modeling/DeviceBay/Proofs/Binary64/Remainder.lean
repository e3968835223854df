import DeviceBay.Proofs.Binary64.Value
import Mathlib.Data.Int.ModEq

/-
  This file proves that the remainder of a finite number by a
  whole one is exact: what is left of a count that fits into a
  significand fits into one too, however far apart the two are.
  The remainder has the sign of the number, and a number that
  is less than the divisor is its own remainder, bit for bit.

  Key definitions include:
    * `Binary64.Fits`
    * `Binary64.signedZero`
    * `Binary64.RemainsOf`
    * `Binary64.WrapsTo`

  Main declarations:
    * `Binary64.Fits.mod`
    * `Binary64.ofMagnitude_magnitude`
    * `Binary64.ofMagnitude_isAt`
    * `Binary64.remainsOf_remainderBy`
    * `Binary64.RemainsOf.unique`
    * `Binary64.wrapsTo_remainderBy`
-/

namespace DeviceBay.Binary64

------------------------------------------------------------
-- Counts that fit
------------------------------------------------------------

/- A count that some significand makes at some power of two. -/
def Fits
    (n : Nat) : Prop :=
  ∃ c k, c < 2 * fractionCount ∧ n = c * 2 ^ k

theorem fits_magnitude
    (x : Binary64) :
    Fits x.magnitude :=
  ⟨x.significand, x.exponentField - 1, x.significand_lt,
    x.magnitude_eq⟩

theorem fits_mul_unit
    {n : Nat}
    (hSmall : n < 2 * fractionCount) :
    Fits (n * unit) :=
  ⟨n, places, hSmall, congrArg (n * ·) unit_eq⟩

/-
  Of two counts, the one at the lower power of two decides at
  which power the remainder is, and both bound its significand.
-/
theorem Fits.mod
    {m n : Nat}
    (hLeft : Fits m)
    (hRight : Fits n) :
    Fits (m % n) := by
  rcases hLeft with ⟨c, k, hSignificand, rfl⟩
  rcases hRight with ⟨d, l, hDivisor, rfl⟩
  rcases Nat.le_total k l with hLe | hLe
  · have hPower : d * 2 ^ l = d * 2 ^ (l - k) * 2 ^ k := by
      rw [mul_assoc, ← pow_add, Nat.sub_add_cancel hLe]
    refine ⟨c % (d * 2 ^ (l - k)), k, ?_, ?_⟩
    · exact (Nat.mod_le _ _).trans_lt hSignificand
    · rw [hPower, Nat.mul_mod_mul_right]
  · have hPower : c * 2 ^ k = c * 2 ^ (k - l) * 2 ^ l := by
      rw [mul_assoc, ← pow_add, Nat.sub_add_cancel hLe]
    rcases Nat.eq_zero_or_pos d with rfl | hPos
    · rw [Nat.zero_mul, Nat.mod_zero]
      exact ⟨c, k, hSignificand, rfl⟩
    · refine ⟨c * 2 ^ (k - l) % d, l, ?_, ?_⟩
      · exact (Nat.mod_lt _ hPos).trans hDivisor
      · rw [hPower, Nat.mul_mod_mul_right]

/- A count with a leading bit can be written with one. -/
theorem Fits.exists_normal
    {n : Nat}
    (hFits : Fits n)
    (hLarge : fractionCount ≤ n) :
    ∃ c k,
      fractionCount ≤ c ∧ c < 2 * fractionCount ∧
        n = c * 2 ^ k := by
  rcases hFits with ⟨c, k, hSignificand, hCount⟩
  -- As long as the leading bit is missing, a power can be spared.
  induction k generalizing c with
  | zero =>
      rw [pow_zero, mul_one] at hCount
      exact ⟨c, 0, hCount ▸ hLarge, hSignificand, by simpa⟩
  | succ k ih =>
      by_cases hLeading : fractionCount ≤ c
      · exact ⟨c, k + 1, hLeading, hSignificand, hCount⟩
      · apply ih (c * 2) (by omega)
        rw [hCount, pow_succ]
        ring

------------------------------------------------------------
-- Numbers from counts
------------------------------------------------------------

theorem log2_normal
    {c : Nat}
    (k : Nat)
    (hLeading : fractionCount ≤ c)
    (hSignificand : c < 2 * fractionCount) :
    Nat.log2 (c * 2 ^ k) = 52 + k := by
  have hPower : fractionCount = 2 ^ 52 := rfl
  have hPos := Nat.two_pow_pos k
  have hCount : c * 2 ^ k ≠ 0 := by
    have hNonzero : 0 < c := by
      rw [fractionCount_eq] at hLeading
      omega
    exact (Nat.mul_pos hNonzero hPos).ne'
  rw [Nat.log2_eq_iff hCount]
  constructor
  · rw [pow_add, ← hPower]
    exact Nat.mul_le_mul_right _ hLeading
  · rw [pow_succ', pow_add, ← hPower, ← mul_assoc]
    exact Nat.mul_lt_mul_of_pos_right hSignificand hPos

theorem bits_ofMagnitude_of_lt
    (negative : Bool)
    {n : Nat}
    (hSmall : n < fractionCount) :
    (ofMagnitude negative n).bits.toNat =
      (if negative then signBit else 0) +
        0 * fractionCount + n := by
  rw [ofMagnitude, if_pos hSmall, Nat.zero_mul, Nat.add_zero]
  apply UInt64.toNat_ofNat_of_lt'
  rw [fractionCount_eq] at hSmall
  rw [signBit_eq, UInt64.size]
  split <;> omega

/- The leading bit of a significand adds one to the exponent. -/
theorem bits_ofMagnitude_of_normal
    (negative : Bool)
    {c k : Nat}
    (hLeading : fractionCount ≤ c)
    (hSignificand : c < 2 * fractionCount)
    (hPower : k < 2047) :
    (ofMagnitude negative (c * 2 ^ k)).bits.toNat =
      (if negative then signBit else 0) +
        (k + 1) * fractionCount + (c - fractionCount) := by
  have hLarge : ¬ c * 2 ^ k < fractionCount :=
    Nat.not_lt.mpr
      (hLeading.trans (Nat.le_mul_of_pos_right c (Nat.two_pow_pos k)))
  have hShift : Nat.log2 (c * 2 ^ k) - 52 = k := by
    rw [log2_normal k hLeading hSignificand]
    omega
  have hTop : (c * 2 ^ k) >>> k = c := by
    rw [Nat.shiftRight_eq_div_pow]
    exact Nat.mul_div_cancel c (Nat.two_pow_pos k)
  simp only [ofMagnitude, if_neg hLarge, hShift, hTop]
  rw [fractionCount_eq] at hLeading hSignificand
  rw [signBit_eq, fractionCount_eq, UInt64.toNat_ofNat_of_lt']
  · omega
  · rw [UInt64.size]
    split <;> omega

/- The sign and the distance from zero determine the bits. -/
theorem ofMagnitude_magnitude
    (x : Binary64) :
    ofMagnitude x.isNegative x.magnitude = x := by
  have hFraction := x.fractionField_lt
  apply eq_of_bits
  rw [x.bits_eq_fields]
  by_cases hExponent : x.exponentField = 0
  · rw [magnitude, if_pos hExponent,
      bits_ofMagnitude_of_lt _ hFraction, hExponent]
  · have hBound := x.exponentField_lt
    have hNext : x.exponentField - 1 + 1 = x.exponentField := by
      omega
    rw [magnitude, if_neg hExponent, Nat.shiftLeft_eq,
      bits_ofMagnitude_of_normal _ (Nat.le_add_right _ _) (by omega)
        (by omega),
      hNext, Nat.add_sub_cancel_left]

theorem eq_of_magnitude
    {x y : Binary64}
    (hSign : x.isNegative = y.isNegative)
    (hMagnitude : x.magnitude = y.magnitude) :
    x = y := by
  rw [← x.ofMagnitude_magnitude, hSign, hMagnitude,
    y.ofMagnitude_magnitude]

/- A finite number on a side of zero, at a distance from it. -/
structure IsAt
    (x : Binary64)
    (negative : Bool)
    (n : Nat) : Prop where
  finite : x.isFinite = true
  sign : x.isNegative = negative
  magnitude : x.magnitude = n

/-
  A count with a leading bit that is no larger than that of a
  finite number is at a power of two that the format has.
-/
theorem power_lt_of_le_magnitude
    {x : Binary64}
    {c k : Nat}
    (hFinite : x.isFinite = true)
    (hLeading : fractionCount ≤ c)
    (hLe : c * 2 ^ k ≤ x.magnitude) :
    k < 2046 := by
  have hBound := x.exponentField_lt
  rw [isFinite_iff] at hFinite
  have hPower :
      fractionCount * 2 ^ k <
        fractionCount * 2 ^ (x.exponentField - 1 + 1) := by
    calc fractionCount * 2 ^ k
        ≤ c * 2 ^ k := Nat.mul_le_mul_right _ hLeading
      _ ≤ x.significand * 2 ^ (x.exponentField - 1) :=
          hLe.trans_eq x.magnitude_eq
      _ < 2 * fractionCount * 2 ^ (x.exponentField - 1) :=
          Nat.mul_lt_mul_of_pos_right x.significand_lt
            (Nat.two_pow_pos _)
      _ = fractionCount * 2 ^ (x.exponentField - 1 + 1) := by
          ring
  have hLess :=
    (Nat.pow_lt_pow_iff_right (by decide)).mp
      (Nat.lt_of_mul_lt_mul_left hPower)
  omega

/- A count that fits is the distance of a number from zero. -/
theorem ofMagnitude_isAt
    {x : Binary64}
    {n : Nat}
    (negative : Bool)
    (hFinite : x.isFinite = true)
    (hFits : Fits n)
    (hLe : n ≤ x.magnitude) :
    (ofMagnitude negative n).IsAt negative n := by
  by_cases hSmall : n < fractionCount
  · rcases fields_of_bits (by decide) hSmall
        (bits_ofMagnitude_of_lt negative hSmall) with
      ⟨hSign, hExponent, hFraction⟩
    refine ⟨?_, hSign, ?_⟩
    · rw [isFinite_iff, hExponent]
      decide
    · rw [magnitude, if_pos hExponent, hFraction]
  · rcases hFits.exists_normal (Nat.not_lt.mp hSmall) with
      ⟨c, k, hLeading, hSignificand, rfl⟩
    have hPower := power_lt_of_le_magnitude hFinite hLeading hLe
    have hExponents : k + 1 < 2048 := by omega
    have hFractions : c - fractionCount < fractionCount := by
      omega
    rcases fields_of_bits hExponents hFractions
        (bits_ofMagnitude_of_normal negative hLeading hSignificand
          (by omega)) with
      ⟨hSign, hExponent, hFraction⟩
    refine ⟨?_, hSign, ?_⟩
    · rw [isFinite_iff, hExponent]
      omega
    · rw [magnitude, hExponent, if_neg (Nat.succ_ne_zero k),
        hFraction, Nat.add_sub_cancel' hLeading,
        Nat.add_sub_cancel, Nat.shiftLeft_eq]

------------------------------------------------------------
-- Remainders
------------------------------------------------------------

/- The zero on a side of all other numbers. -/
def signedZero : (negative : Bool) → Binary64
  | false => ⟨0⟩
  | true => ⟨0x8000000000000000⟩

theorem ofMagnitude_zero
    (negative : Bool) :
    ofMagnitude negative 0 = signedZero negative := by
  cases negative <;> rfl

/-
  What is left of a finite number when whole multiples of a
  divisor are taken away: less than the divisor, on the same
  side of zero and no further from it. All values are exact.
-/
structure RemainsOf
    (z : Binary64)
    (n : Nat)
    (d : Binary64) : Prop where
  finite : d.isFinite = true
  turns : ∃ k : Int, z.value - d.value = k * n
  less : |d.value| < n
  within : |d.value| ≤ |z.value|
  sign : d.isNegative = z.isNegative
  same (hLess : |z.value| < n) : d = z
  zero (k : Int) (hTurns : z.value = k * n) :
      d = signedZero z.isNegative

theorem isNaN_remainderBy
    {z : Binary64}
    (n : Nat)
    (hFinite : z.isFinite = false) :
    (z.remainderBy n).isNaN = true := by
  rw [remainderBy, hFinite, if_neg Bool.false_ne_true]
  rfl

section Finite

variable {z : Binary64} {n : Nat}

theorem remainderBy_of_finite
    (n : Nat)
    (hFinite : z.isFinite = true) :
    z.remainderBy n =
      ofMagnitude z.isNegative (z.magnitude % (n * unit)) := by
  rw [remainderBy, hFinite, if_pos rfl]

/- No bit of the remainder is lost. -/
theorem remainderBy_isAt
    (hFinite : z.isFinite = true)
    (hDivisor : n < 2 * fractionCount) :
    (z.remainderBy n).IsAt z.isNegative
      (z.magnitude % (n * unit)) := by
  rw [remainderBy_of_finite n hFinite]
  exact ofMagnitude_isAt _ hFinite
    (z.fits_magnitude.mod (fits_mul_unit hDivisor))
    (Nat.mod_le _ _)

/- A distance in smallest positive numbers, against a whole one. -/
theorem abs_value_lt_iff
    (x : Binary64)
    (n : Nat) :
    |x.value| < n ↔ x.magnitude < n * unit := by
  have hUnit : (0 : ℚ) < unit := Nat.cast_pos.mpr unit_pos
  rw [abs_value, div_lt_iff₀ hUnit]
  exact_mod_cast Iff.rfl

theorem abs_value_le_iff
    (x y : Binary64) :
    |x.value| ≤ |y.value| ↔ x.magnitude ≤ y.magnitude := by
  have hUnit : (0 : ℚ) < unit := Nat.cast_pos.mpr unit_pos
  rw [abs_value, abs_value, div_le_div_iff_of_pos_right hUnit]
  exact Nat.cast_le

/- A whole multiple is one in smallest positive numbers too. -/
theorem magnitude_of_turns
    {k : Int}
    (hTurns : z.value = k * n) :
    z.magnitude = k.natAbs * (n * unit) := by
  have hUnit : (unit : ℚ) ≠ 0 := Nat.cast_ne_zero.mpr unit_pos.ne'
  have hDistance : (z.magnitude : ℚ) / unit = k.natAbs * n := by
    rw [← abs_value, hTurns, abs_mul, Nat.abs_cast, Nat.cast_natAbs,
      Int.cast_abs]
  rw [div_eq_iff hUnit, mul_assoc] at hDistance
  exact_mod_cast hDistance

/-
  On one side of zero, numbers are whole multiples of a divisor
  apart if their counts leave the same remainder.
-/
theorem exists_turns_iff
    {x y : Binary64}
    (n : Nat)
    (hSign : x.isNegative = y.isNegative) :
    (∃ k : Int, x.value - y.value = k * n) ↔
      y.magnitude ≡ x.magnitude [MOD n * unit] := by
  have hUnit : (unit : ℚ) ≠ 0 := Nat.cast_ne_zero.mpr unit_pos.ne'
  have hApart (k : Int) :
      ((x.magnitude : ℚ) - y.magnitude) / unit = k * n ↔
        (x.magnitude : Int) - y.magnitude = (n * unit : Nat) * k := by
    rw [div_eq_iff hUnit, mul_assoc, mul_comm]
    exact_mod_cast Iff.rfl
  have hValues :
      x.value - y.value =
        (if x.isNegative then -1 else 1) *
          (((x.magnitude : ℚ) - y.magnitude) / unit) := by
    rw [value_eq, value_eq, ← hSign, sub_div, mul_sub]
  rw [Nat.modEq_iff_dvd, hValues]
  cases x.isNegative with
  | false =>
      simp only [Bool.false_eq_true, if_false, one_mul, hApart]
      exact Iff.rfl
  | true =>
      simp only [if_true, neg_one_mul, neg_eq_iff_eq_neg]
      constructor
      · rintro ⟨k, hTurns⟩
        refine ⟨-k, (hApart (-k)).mp ?_⟩
        rw [hTurns, Int.cast_neg, neg_mul]
      · rintro ⟨k, hTurns⟩
        refine ⟨-k, ?_⟩
        rw [(hApart k).mpr hTurns, Int.cast_neg, neg_mul, neg_neg]

theorem remainsOf_remainderBy
    (hFinite : z.isFinite = true)
    (hPos : 0 < n)
    (hDivisor : n < 2 * fractionCount) :
    z.RemainsOf n (z.remainderBy n) := by
  have hAt := remainderBy_isAt hFinite hDivisor
  constructor
  case finite => exact hAt.finite
  case turns =>
    rw [exists_turns_iff n hAt.sign.symm, hAt.magnitude]
    exact Nat.mod_modEq _ _
  case less =>
    rw [abs_value_lt_iff, hAt.magnitude]
    exact Nat.mod_lt _ (Nat.mul_pos hPos unit_pos)
  case within =>
    rw [abs_value_le_iff, hAt.magnitude]
    exact Nat.mod_le _ _
  case sign => exact hAt.sign
  case same =>
    intro hLess
    rw [abs_value_lt_iff] at hLess
    rw [remainderBy_of_finite n hFinite, Nat.mod_eq_of_lt hLess,
      ofMagnitude_magnitude]
  case zero =>
    intro k hTurns
    rw [remainderBy_of_finite n hFinite, magnitude_of_turns hTurns,
      Nat.mul_mod_left, ofMagnitude_zero]

/- There is only one such number. -/
theorem RemainsOf.unique
    {c d : Binary64}
    (hLeft : z.RemainsOf n c)
    (hRight : z.RemainsOf n d) :
    c = d := by
  have hTurnsLeft :=
    (exists_turns_iff n hLeft.sign.symm).mp hLeft.turns
  have hTurnsRight :=
    (exists_turns_iff n hRight.sign.symm).mp hRight.turns
  apply eq_of_magnitude (hLeft.sign.trans hRight.sign.symm)
  exact Nat.ModEq.eq_of_lt_of_lt
    (hTurnsLeft.trans hTurnsRight.symm)
    ((abs_value_lt_iff c n).mp hLeft.less)
    ((abs_value_lt_iff d n).mp hRight.less)

end Finite

/-
  What a number becomes when it is taken around a turn of a
  whole length: what is left of it, and nothing else would be,
  or no number if it is not finite.
-/
structure WrapsTo
    (z : Binary64)
    (n : Nat)
    (d : Binary64) : Prop where
  finite (hFinite : z.isFinite = true) : z.RemainsOf n d
  only (hFinite : z.isFinite = true) (c : Binary64)
      (hRemains : z.RemainsOf n c) :
      c = d
  nan (hFinite : z.isFinite = false) : d.isNaN = true

theorem wrapsTo_remainderBy
    (z : Binary64)
    {n : Nat}
    (hPos : 0 < n)
    (hDivisor : n < 2 * fractionCount) :
    z.WrapsTo n (z.remainderBy n) := by
  constructor
  case finite =>
    intro hFinite
    exact remainsOf_remainderBy hFinite hPos hDivisor
  case only =>
    intro hFinite c hRemains
    exact hRemains.unique
      (remainsOf_remainderBy hFinite hPos hDivisor)
  case nan => exact isNaN_remainderBy n

end DeviceBay.Binary64
