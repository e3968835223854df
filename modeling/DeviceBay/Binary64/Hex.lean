import DeviceBay.Binary64.Basic

/-
  This file defines the exact text of a binary64 number: the
  sixteen hexadecimal digits of its bits. All numbers without a
  value share one text.

  Key definitions include:
    * `Binary64.hexText`
    * `Binary64.ofHexText?`
-/

namespace DeviceBay.Binary64

def hexText
    (x : Binary64) : String :=
  if x.isNaN then
    "nan"
  else
    let digits := Nat.toDigits 16 x.bits.toNat
    let zeros := List.replicate (16 - digits.length) '0'
    "0x" ++ String.ofList (zeros ++ digits)

def hexDigit?
    (c : Char) : Option Nat :=
  if '0' ≤ c ∧ c ≤ '9' then
    some (c.toNat - '0'.toNat)
  else if 'a' ≤ c ∧ c ≤ 'f' then
    some (c.toNat - 'a'.toNat + 10)
  else
    none

/- The number that hexadecimal digits mean, after `n` so far. -/
def hexValue?
    (n : Nat) : List Char → Option Nat
  | [] => some n
  | c :: rest =>
      match hexDigit? c with
      | none => none
      | some digit => hexValue? (n * 16 + digit) rest

def ofHexText?
    (text : String) : Option Binary64 :=
  match text.toList with
  | ['n', 'a', 'n'] => some nan
  | '0' :: 'x' :: digits =>
      if digits.length = 16 then
        (hexValue? 0 digits).map (fun n => ⟨UInt64.ofNat n⟩)
      else
        none
  | _ => none

end DeviceBay.Binary64
