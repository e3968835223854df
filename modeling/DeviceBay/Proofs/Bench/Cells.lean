import DeviceBay.Proofs.Bench.History
import DeviceBay.Proofs.Slot.Held

/-
  This file follows a cell of a slot over a run: it is what was
  written to it last since a device was last put into the slot.

  Key definitions include:
    * `Moment.writesCell?`

  Main declarations:
    * `Moment.read_after`
    * `Bench.History.cell_eq_last_write`
-/

namespace DeviceBay

variable {n m : Nat} {α : Type}

namespace Moment

/- What a moment writes into a cell of a slot. -/
def writesCell?
    (b : Fin n)
    (i : SlotIndex)
    (cell : Slot.Cell α)
    (x : Moment n m) : Option α :=
  (x.callOn? b i).bind
    (cell.write? (x.bench.env b) (x.bench.slot b i))

variable {b : Fin n} {i : SlotIndex} {x : Moment n m}

theorem read_after_of_installs
    (cell : Slot.Cell α)
    (hInstalls : x.installs b i = true) :
    cell.read (x.after.slot b i) = cell.initial := by
  rcases (Option.any_eq_true _ _).mp hInstalls with
    ⟨c, hCall, hFresh⟩
  rw [slot_after hCall]
  exact cell.read_of_installs _ _ _ hFresh

theorem read_after
    (cell : Slot.Cell α)
    (hKeeps : x.installs b i = false) :
    cell.read (x.after.slot b i) =
      (x.writesCell? b i cell).getD
        (cell.read (x.bench.slot b i)) := by
  cases hCall : x.callOn? b i with
  | none =>
      rw [slot_after_of_none hCall, writesCell?, hCall]
      rfl
  | some c =>
      rw [installs_of_callOn? hCall] at hKeeps
      rw [slot_after hCall, writesCell?, hCall]
      exact cell.read_apply _ _ _ hKeeps

end Moment

namespace Bench

/- A cell holds its last write since the last installation. -/
theorem History.cell_eq_last_write
    {past : List (Moment n m)}
    {bench : Bench n m}
    (hPast : History past bench)
    (b : Fin n)
    (i : SlotIndex)
    (cell : Slot.Cell α) :
    cell.read (bench.slot b i) =
      (lastWrite? (Moment.writesCell? b i cell)
        (since (Moment.installs b i) past)).getD
        cell.initial := by
  apply hPast.eq_last_write
    (f := fun bench => cell.read (bench.slot b i))
  · intro clock configs views
    rw [fresh_slot]
    exact cell.read_vacant i
  · intro x _ hInstalls
    exact Moment.read_after_of_installs cell hInstalls
  · intro x _ hKeeps
    exact Moment.read_after cell hKeeps
  · intro bench clock
    rfl

end Bench

end DeviceBay
