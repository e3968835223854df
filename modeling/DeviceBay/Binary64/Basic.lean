/-
  This file defines binary floating-point numbers of sixty-four
  bits by their bits. A number without a value (NaN) keeps its
  payload. All other numbers, the infinities included, are
  whole multiples of the smallest positive one, and that count
  decides every comparison.

  Key definitions include:
    * `Binary64`
    * `Binary64.quanta`
    * `Binary64.ofMagnitude`
    * `Binary64.eqv`
    * `Binary64.less`
-/

namespace DeviceBay

structure Binary64 where
  bits : UInt64
deriving DecidableEq

namespace Binary64

------------------------------------------------------------
-- Fields of the format
------------------------------------------------------------

/- The bits of the sign alone, as a number. -/
def signBit : Nat :=
  1 <<< 63

/- The number of fractions that go with each exponent. -/
def fractionCount : Nat :=
  1 <<< 52

def isNegative
    (x : Binary64) : Bool :=
  signBit ≤ x.bits.toNat

def exponentField
    (x : Binary64) : Nat :=
  x.bits.toNat / fractionCount % 2048

def fractionField
    (x : Binary64) : Nat :=
  x.bits.toNat % fractionCount

def isFinite
    (x : Binary64) : Bool :=
  x.exponentField != 2047

def isNaN
    (x : Binary64) : Bool :=
  x.exponentField == 2047 && x.fractionField != 0

------------------------------------------------------------
-- Exact values
------------------------------------------------------------

/- The count of smallest positive numbers that make one. -/
def unit : Nat :=
  1 <<< 1074

/-
  The distance from zero, counted in smallest positive
  numbers. An infinity lies beyond all finite numbers.
-/
def magnitude
    (x : Binary64) : Nat :=
  if x.exponentField = 0 then
    x.fractionField
  else
    (fractionCount + x.fractionField) <<< (x.exponentField - 1)

/- The value of a number, counted in smallest positive ones. -/
def quanta
    (x : Binary64) : Int :=
  if x.isNegative then
    -(x.magnitude : Int)
  else
    x.magnitude

/-
  The number at a distance from zero, for distances that the
  format holds exactly.
-/
def ofMagnitude
    (negative : Bool)
    (n : Nat) : Binary64 :=
  let sign := if negative then signBit else 0
  if n < fractionCount then
    ⟨UInt64.ofNat (sign + n)⟩
  else
    let shift := Nat.log2 n - 52
    ⟨UInt64.ofNat (sign + shift * fractionCount + n >>> shift)⟩

def zero : Binary64 :=
  ⟨0⟩

def infinity : Binary64 :=
  ⟨0x7ff0000000000000⟩

def nan : Binary64 :=
  ⟨0x7ff8000000000000⟩

/- A whole number that needs at most fifty-three bits. -/
def ofNat
    (n : Nat) : Binary64 :=
  ofMagnitude false (n * unit)

instance : Inhabited Binary64 :=
  ⟨zero⟩

------------------------------------------------------------
-- Comparison and addition
------------------------------------------------------------

/-
  Equality of values: the two zeros are equal, and a number
  without a value equals nothing, itself included.
-/
def eqv
    (x y : Binary64) : Bool :=
  !x.isNaN && !y.isNaN && x.quanta == y.quanta

/- Order of values, in which NaN has no place. -/
def less
    (x y : Binary64) : Bool :=
  !x.isNaN && !y.isNaN && decide (x.quanta < y.quanta)

/- The sum, rounded to the nearest number of the format. -/
def add
    (x y : Binary64) : Binary64 :=
  ⟨(Float.ofBits x.bits + Float.ofBits y.bits).toBits⟩

instance : Add Binary64 :=
  ⟨add⟩

end Binary64

end DeviceBay
