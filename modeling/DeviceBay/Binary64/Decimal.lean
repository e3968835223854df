import DeviceBay.Binary64.Basic

/-
  This file defines the decimal text of a binary64 number: its
  exact value, with at least one digit on each side of the
  point.

  Key definitions include:
    * `Binary64.fractionDigits`
    * `Binary64.describe`
-/

namespace DeviceBay.Binary64

/-
  The decimal digits of `rest / unit` after the point, at most
  `places` of them. Every tenfold halves the denominator at
  least once, so 1074 places always hold the exact value.
-/
def fractionDigits
    (rest : Nat) : (places : Nat) → List Char
  | 0 => []
  | places + 1 =>
      if rest = 0 then
        []
      else
        Nat.digitChar (rest * 10 / unit) ::
          fractionDigits (rest * 10 % unit) places

def describe
    (x : Binary64) : String :=
  let sign := if x.isNegative then "-" else ""
  if x.isNaN then
    "NaN"
  else if !x.isFinite then
    sign ++ "inf"
  else
    let digits := fractionDigits (x.magnitude % unit) 1074
    let fraction := if digits.isEmpty then ['0'] else digits
    sign ++ toString (x.magnitude / unit) ++ "." ++ String.ofList fraction

end DeviceBay.Binary64
