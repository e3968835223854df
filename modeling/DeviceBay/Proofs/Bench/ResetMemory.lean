import DeviceBay.Proofs.Bench.History
import DeviceBay.Proofs.Slot.ResetTime

/-
  This file relates the reading that an inertial sensor stores
  as the start of its calibration window to the one that was
  written last. The two can differ, since a status read removes
  the reading of a window that is over, but only after a
  reading of the clock that found it over.

  Key definitions include:
    * `Moment.resetWrite?`

  Main declarations:
    * `Moment.fades`
    * `Bench.History.fades`
-/

namespace DeviceBay

theorem Bench.now_mem_readings
    {n m : Nat}
    {bench : Bench n m}
    {s : Step n m}
    {b : Fin n}
    {i : SlotIndex}
    {c : SlotCall}
    (hCall : bench.callOn? b i s = some c)
    (hReads : c.readsStatus = true) :
    bench.clock.now ∈ (bench.step s).2.readings := by
  rw [readings_of_callOn? hCall,
    SlotCall.firstReading?_of_readsStatus bench.clock hReads]
  exact List.mem_append_left _ (List.mem_singleton.mpr rfl)

------------------------------------------------------------
-- Moments
------------------------------------------------------------

namespace Moment

variable {n m : Nat} {b : Fin n} {i : SlotIndex}
variable {x : Moment n m}

/- What a moment writes as the start of a calibration window. -/
def resetWrite?
    (b : Fin n)
    (i : SlotIndex)
    (x : Moment n m) : Option (Option Instant) :=
  (x.callOn? b i).bind
    (SlotCall.resetWrite? x.bench.clock (x.bench.slot b i))

theorem resetAt?_after_of_installs
    (hInstalls : x.installs b i = true) :
    (x.after.slot b i).resetAt? = none := by
  rcases (Option.any_eq_true _ _).mp hInstalls with
    ⟨c, hCall, hFresh⟩
  rw [slot_after hCall]
  exact SlotCall.resetAt?_of_installs _ _ _ hFresh

/- A moment stores what it writes, or lets what was there fade. -/
theorem fades
    (hKeeps : x.installs b i = false) :
    Imu.Fades (x.bench.bay b).config x.outcome.readings
      ((x.resetWrite? b i).getD (x.bench.slot b i).resetAt?)
      (x.after.slot b i).resetAt? := by
  cases hCall : x.callOn? b i with
  | none =>
      rw [slot_after_of_none hCall, resetWrite?, hCall]
      exact .refl _ _ _
  | some c =>
      rw [installs_of_callOn? hCall] at hKeeps
      rw [slot_after hCall, resetWrite?, hCall, Option.bind_some]
      cases hReads : c.readsStatus with
      | true =>
          rw [SlotCall.resetWrite?_of_readsStatus _ _ hReads]
          exact SlotCall.fades_status (x.bench.env b) x.bench.clock
            (x.bench.slot b i) hReads
            (Bench.now_mem_readings hCall hReads)
      | false =>
          rw [SlotCall.resetAt?_apply _ _ _ hKeeps,
            SlotCall.closes, hReads, Bool.false_and,
            if_neg Bool.false_ne_true]
          exact .refl _ _ _

end Moment

------------------------------------------------------------
-- Histories
------------------------------------------------------------

namespace Bench

variable {n m : Nat}

/-
  Over any history the stored reading is the last one that was
  written since the last installation, or has faded.
-/
theorem History.fades
    {past : List (Moment n m)}
    {bench : Bench n m}
    (hPast : History past bench)
    (b : Fin n)
    (i : SlotIndex) :
    Imu.Fades (bench.bay b).config (readings past)
      ((lastWrite? (Moment.resetWrite? b i)
        (since (Moment.installs b i) past)).getD none)
      (bench.slot b i).resetAt? := by
  induction hPast with
  | fresh clock configs views =>
      rw [fresh_slot]
      exact .refl _ _ none
  | exchange _ clock ih => exact ih
  | @step past bench hPast s ih =>
      rw [step_config, since_concat, readings_concat]
      cases hInstalls : Moment.installs b i ⟨bench, s⟩ with
      | true =>
          have hAfter :=
            Moment.resetAt?_after_of_installs hInstalls
          exact Or.inl hAfter
      | false =>
          have hMoment := Moment.fades hInstalls
          rw [if_neg Bool.false_ne_true, lastWrite?_concat]
          cases hWrite : Moment.resetWrite? b i ⟨bench, s⟩ with
          | some written =>
              rw [hWrite] at hMoment
              have hWritten :
                  Imu.Fades (bench.bay b).config (readings past)
                    written written :=
                .refl _ _ _
              exact hWritten.trans hMoment
          | none =>
              rw [hWrite] at hMoment
              rw [Option.none_or]
              exact ih.trans hMoment

end Bench

end DeviceBay
