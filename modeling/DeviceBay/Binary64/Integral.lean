import DeviceBay.Binary64.Basic

/-
  This file defines the two exact ways from a binary64 number
  to whole numbers: rounding toward zero, and the remainder of
  a division by a whole number.

  Key definitions include:
    * `Binary64.truncate`
    * `Binary64.toInt32`
    * `Binary64.remainderBy`
-/

namespace DeviceBay.Binary64

/- The value rounded toward zero, for numbers with a value. -/
def truncate
    (x : Binary64) : Int :=
  x.quanta.tdiv unit

/-
  The value rounded toward zero and held within the range of
  a signed word. A number without a value counts as zero.
-/
def toInt32
    (x : Binary64) : Int32 :=
  if x.isNaN then
    0
  else
    Int32.ofInt (max (-2147483648) (min 2147483647 x.truncate))

/-
  What is left of a number when the whole multiples of
  `divisor` between zero and it are taken away. It keeps the
  sign of the number, also when nothing is left, and it is
  always exact. An infinity has no remainder.
-/
def remainderBy
    (x : Binary64)
    (divisor : Nat) : Binary64 :=
  if x.isFinite then
    ofMagnitude x.isNegative (x.magnitude % (divisor * unit))
  else
    nan

end DeviceBay.Binary64
