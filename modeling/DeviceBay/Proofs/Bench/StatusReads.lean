import DeviceBay.Proofs.Bench.RawRefinement
import DeviceBay.Proofs.Bench.ResetMemory

/-
  This file proves that all ways to read the status of an
  inertial sensor, raw ones included, answer from the stored
  start of its calibration window and the time alone.

  Key definitions include:
    * `Bench.StatusReads`

  Main declarations:
    * `Bench.rawStatus_eq`
    * `Bench.statusReads_of_state`
    * `Bench.Coherent.statusReads`
-/

namespace DeviceBay

namespace Bench

variable {n m : Nat}

------------------------------------------------------------
-- Ways to read the status
------------------------------------------------------------

/-
  What every way to read the status of a sensor answers, given
  whether it is calibrating. Each takes its first reading of
  the clock when it begins.
-/
structure StatusReads
    (bench : Bench n m)
    (b : Fin n)
    (i : SlotIndex)
    (calibrating : Bool) : Prop where
  first :
    ∀ s c, bench.callOn? b i s = some c → c.readsStatus = true →
      (bench.step s).2.readings.head? = some bench.clock.now
  status :
    (bench.step (.slot b i (.imu .status))).2.answer =
      .value
        (.nat (InertialStatus.ofCalibrating calibrating).bits.toNat)
  isCalibrating :
    (bench.step (.slot b i (.imu .isCalibrating))).2.answer =
      .value (.bool calibrating)
  raw :
    ∀ s h, bench.resolve s h = some (b, i) →
      (bench.step (.device s h (.imu .statusGet))).2.answer.rawValue? =
        some
          (.nat
            (InertialStatus.ofCalibrating calibrating).bits.toNat)

/- A raw status read gives the form of what the driver answers. -/
theorem rawStatus_eq
    {bench : Bench n m}
    {s : Fin m}
    {h : Handle n}
    {b : Fin n}
    {i : SlotIndex}
    (hHandle : bench.resolve s h = some (b, i)) :
    (bench.step (.device s h (.imu .statusGet))).2.answer.rawValue? =
      some
        (RawForm.unsigned.ofAnswer
          (bench.step (.slot b i (.imu .status))).2.answer) := by
  have hRefines : bench.Refines
      (.device s h (.imu .statusGet)) (.slot b i (.imu .status))
      .unsigned :=
    refines_of_settle hHandle
      (RawImuCall.run_eq (bench.env b) bench.clock
        (bench.slot b i) (bench.surface s).errno .statusGet) rfl
  exact hRefines.value

theorem statusReads_of_state
    {bench : Bench n m}
    {b : Fin n}
    {i : SlotIndex}
    {s : Imu}
    (hState : (bench.slot b i).stateOf .imu = .ok s) :
    bench.StatusReads b i
      (Imu.calibrating (bench.bay b).config bench.clock.now
        s.resetAt) := by
  have hStatus :
      (bench.step (.slot b i (.imu .status))).2.answer =
        .value
          (.nat
            (InertialStatus.ofCalibrating
              (Imu.calibrating (bench.bay b).config bench.clock.now
                s.resetAt)).bits.toNat) := by
    rw [stepSlot_eq rfl]
    simp only [SlotCall.run, ImuCall.run, Reply.mapError_result,
      Reply.map_result, Imu.status_result _ _ hState]
    rfl
  constructor
  case first =>
    intro step c hCall hReads
    rw [readings_of_callOn? hCall,
      SlotCall.firstReading?_of_readsStatus bench.clock hReads]
    rfl
  case status => exact hStatus
  case isCalibrating =>
    rw [stepSlot_eq rfl]
    simp only [SlotCall.run, ImuCall.run, Reply.mapError_result,
      Reply.map_result, Imu.isCalibrating_result _ _ hState]
    rfl
  case raw =>
    intro t h hHandle
    rw [rawStatus_eq hHandle, hStatus]
    rfl

/- The status of a sensor in reach is that of its stored window. -/
theorem Coherent.statusReads
    {bench : Bench n m}
    {b : Fin n}
    {i : SlotIndex}
    (hBench : bench.Coherent)
    (hType : (bench.slot b i).connectedType = some .imu) :
    bench.StatusReads b i
      (Imu.calibrating (bench.bay b).config bench.clock.now
        (bench.slot b i).resetAt?) := by
  rcases (hBench b i).stateOf (k := .imu) hType with ⟨s, hState⟩
  rw [Slot.resetAt?_of_state hState]
  exact statusReads_of_state hState

------------------------------------------------------------
-- Refusals
------------------------------------------------------------

theorem answer_of_imu_refused
    {bench : Bench n m}
    {b : Fin n}
    {i : SlotIndex}
    {e : SlotError}
    (c : ImuCall)
    (hRefused : (bench.slot b i).validate .imu = .error e) :
    (bench.step (.slot b i (.imu c))).2.answer =
      .failed (.slot e) := by
  have hRun := SlotCall.run_of_refused (c := .imu c) (bench.env b)
    bench.clock rfl hRefused
  rw [stepSlot_eq rfl, hRun.1]
  rfl

end Bench

end DeviceBay
