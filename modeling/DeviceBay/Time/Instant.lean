import DeviceBay.Time.Duration

/-
  This file defines readings of a millisecond clock and the
  arithmetic between readings and spans of time.

  Key definitions include:
    * `Instant`
    * `Instant.durationSince?`
    * `Instant.saturatingDurationSince`
    * `Instant.add?`
    * `Instant.advance`
-/

namespace DeviceBay

/- Milliseconds since the clock was started. -/
structure Instant where
  millis : UInt32
deriving DecidableEq

namespace Instant

def epoch : Instant :=
  ⟨0⟩

def toNat
    (t : Instant) : Nat :=
  t.millis.toNat

/- The last reading that a clock can show. -/
def last : Nat :=
  4294967295

instance : LE Instant where
  le a b := a.millis ≤ b.millis

instance : LT Instant where
  lt a b := a.millis < b.millis

instance
    (a b : Instant) :
    Decidable (a ≤ b) :=
  inferInstanceAs (Decidable (a.millis ≤ b.millis))

instance
    (a b : Instant) :
    Decidable (a < b) :=
  inferInstanceAs (Decidable (a.millis < b.millis))

theorem le_iff
    (a b : Instant) :
    a ≤ b ↔ a.toNat ≤ b.toNat :=
  UInt32.le_iff_toNat_le

theorem lt_iff
    (a b : Instant) :
    a < b ↔ a.toNat < b.toNat :=
  UInt32.lt_iff_toNat_lt

theorem toNat_inj
    {s t : Instant}
    (hNat : s.toNat = t.toNat) :
    s = t := by
  cases s
  cases t
  exact congrArg Instant.mk (UInt32.toNat_inj.mp hNat)

theorem toNat_le_last
    (t : Instant) :
    t.toNat ≤ last := by
  have h := t.millis.toNat_lt
  simp only [toNat, last]
  omega

/- Minus one, zero or one, as a reading is before another or not. -/
def compare
    (a b : Instant) : Int :=
  if a < b then -1 else if b < a then 1 else 0

/- Time passed since an `earlier` reading, if it is earlier. -/
def durationSince?
    (t earlier : Instant) : Option Duration :=
  if earlier ≤ t then
    some (Duration.ofMillis (t.toNat - earlier.toNat))
  else
    none

/- Time passed since another reading, none if that is later. -/
def saturatingDurationSince
    (t earlier : Instant) : Duration :=
  (t.durationSince? earlier).getD Duration.zero

/-
  The reading a span later, where the part of the span below
  a millisecond is dropped. There is none past the last
  reading of the clock.
-/
def add?
    (t : Instant)
    (d : Duration) : Option Instant :=
  if t.toNat + d.wholeMillis ≤ last then
    some ⟨UInt32.ofNat (t.toNat + d.wholeMillis)⟩
  else
    none

/- The reading a span later, stopping at the last reading. -/
def advance
    (t : Instant)
    (d : Duration) : Instant :=
  ⟨UInt32.ofNat (min last (t.toNat + d.wholeMillis))⟩

theorem toNat_advance
    (t : Instant)
    (d : Duration) :
    (t.advance d).toNat = min last (t.toNat + d.wholeMillis) := by
  have h : min last (t.toNat + d.wholeMillis) < 4294967296 := by
    simp only [last]
    omega
  simpa [advance, toNat] using Nat.mod_eq_of_lt h

def describe
    (t : Instant) : String :=
  toString t.toNat ++ "ms"

end Instant

end DeviceBay
