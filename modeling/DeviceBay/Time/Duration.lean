/-
  This file defines spans of time and their written form.

  Key definitions include:
    * `Duration`
    * `Duration.ofParts`
    * `Duration.wholeMillis`
    * `Duration.describe`
-/

namespace DeviceBay

/-
  A span of time, counted in nanoseconds. Spans are ordered
  by that count.
-/
structure Duration where
  nanos : Nat
deriving DecidableEq

namespace Duration

def zero : Duration :=
  ⟨0⟩

/- Whole seconds and the nanoseconds beyond them. -/
def ofParts
    (seconds nanos : Nat) : Duration :=
  ⟨seconds * 1000000000 + nanos⟩

def ofMillis
    (millis : Nat) : Duration :=
  ⟨millis * 1000000⟩

def wholeSeconds
    (d : Duration) : Nat :=
  d.nanos / 1000000000

def subsecNanos
    (d : Duration) : Nat :=
  d.nanos % 1000000000

/- Milliseconds that have fully passed. -/
def wholeMillis
    (d : Duration) : Nat :=
  d.nanos / 1000000

instance : LE Duration where
  le a b := a.nanos ≤ b.nanos

instance : LT Duration where
  lt a b := a.nanos < b.nanos

instance
    (a b : Duration) :
    Decidable (a < b) :=
  inferInstanceAs (Decidable (a.nanos < b.nanos))

@[simp]
theorem wholeMillis_ofMillis
    (millis : Nat) :
    (ofMillis millis).wholeMillis = millis := by
  simp [ofMillis, wholeMillis]

------------------------------------------------------------
-- Written form
------------------------------------------------------------

/-
  The digits of `part` after a decimal point, `width` places
  wide and without the zeros at their end. Nothing at all is
  written for a part of zero.
-/
def fractionText
    (width part : Nat) : String :=
  let digits := (Nat.toDigits 10 part)
  let padded := List.replicate (width - digits.length) '0' ++ digits
  let kept := (padded.reverse.dropWhile (· == '0')).reverse
  if kept.isEmpty then "" else "." ++ String.ofList kept

/-
  The largest unit among seconds, milliseconds, microseconds
  and nanoseconds of which the span holds at least one, with
  the rest of the span as a decimal fraction of it.
-/
def describe
    (d : Duration) : String :=
  if 1000000000 ≤ d.nanos then
    toString (d.nanos / 1000000000) ++
      fractionText 9 (d.nanos % 1000000000) ++ "s"
  else if 1000000 ≤ d.nanos then
    toString (d.nanos / 1000000) ++
      fractionText 6 (d.nanos % 1000000) ++ "ms"
  else if 1000 ≤ d.nanos then
    toString (d.nanos / 1000) ++
      fractionText 3 (d.nanos % 1000) ++ "µs"
  else
    toString d.nanos ++ "ns"

end Duration

end DeviceBay
