import DeviceBay.Time.Instant

/-
  This file defines the clock that a bay of devices reads.

  Key definitions include:
    * `Clock`
    * `Clock.read`
    * `Clock.ticking`
    * `ClockStep`
-/

namespace DeviceBay

/-
  A clock shows `now`. After every reading it moves on by
  itself to what `drift` makes of the reading. A manual clock
  drifts nowhere: it moves only when it is told to.
-/
structure Clock where
  now : Instant
  drift : Instant → Instant

namespace Clock

/- A clock that stands still between its steps. -/
def manual
    (start : Instant) : Clock :=
  ⟨start, id⟩

/- A clock that moves on by `tick` after every reading. -/
def ticking
    (start : Instant)
    (tick : Duration) : Clock :=
  ⟨start, fun t => t.advance tick⟩

/- What the clock shows, and the clock after it was read. -/
def read
    (c : Clock) : Instant × Clock :=
  (c.now, { c with now := c.drift c.now })

def set
    (c : Clock)
    (t : Instant) : Clock :=
  { c with now := t }

def advance
    (c : Clock)
    (d : Duration) : Clock :=
  { c with now := c.now.advance d }

@[simp]
theorem read_fst
    (c : Clock) :
    c.read.1 = c.now :=
  rfl

@[simp]
theorem read_manual
    (t : Instant) :
    (manual t).read = (t, manual t) :=
  rfl

end Clock

/- A step that moves a clock from outside. -/
inductive ClockStep
  | set (t : Instant)
  | advance (d : Duration)

namespace ClockStep

def apply
    (c : Clock) : ClockStep → Clock
  | .set t => c.set t
  | .advance d => c.advance d

end ClockStep

end DeviceBay
