import DeviceBay.Proofs.Bench.SensorMemory
import DeviceBay.Proofs.Binary64.Remainder

/-
  This file proves what an inertial sensor answers for its yaw
  within one turn, whatever bits the yaw is made of: exactly
  what is left of the yaw when whole turns are taken away, with
  the sign of the yaw, however many turns that are.

  Key definitions include:
    * `SlotCall.turnTo`
    * `Bench.AnswersYaw`

  Main declarations:
    * `Bench.answersYaw_of_state`
    * `Bench.yaw_wraps_exactly`
-/

namespace DeviceBay

/- Makes an inertial sensor report another yaw. -/
def SlotCall.turnTo
    (z : Binary64) : SlotCall :=
  .publish .imu
    (fun s : Imu => { s with rotation := { s.rotation with z := z } })
    none

namespace Bench

variable {n m : Nat}

/-
  All that ask for the yaw of the sensor in a slot are answered
  with one yaw, and all that ask for it within one turn with
  one number too.
-/
structure AnswersYaw
    (bench : Bench n m)
    (b : Fin n)
    (i : SlotIndex)
    (yaw wrapped : Binary64) : Prop where
  heading :
    (bench.step (.slot b i (.imu (.ask .heading)))).2.answer =
      .value (.float yaw)
  degrees :
    (bench.step (.slot b i (.imu (.ask .degrees)))).2.answer =
      .value (.float wrapped)
  rawHeading (t : Fin m) (h : Handle n)
      (hHandle : bench.resolve t h = some (b, i)) :
    (bench.step
        (.device t h (.imu .headingGet))).2.answer.rawValue? =
      some (.float yaw)
  rawDegrees (t : Fin m) (h : Handle n)
      (hHandle : bench.resolve t h = some (b, i)) :
    (bench.step
        (.device t h (.imu .degreesGet))).2.answer.rawValue? =
      some (.float wrapped)

section Yaws

variable {bench : Bench n m} {b : Fin n} {i : SlotIndex}

theorem answersYaw_of_state
    {s : Imu}
    (hBench : bench.Coherent)
    (hState : (bench.slot b i).stateOf .imu = .ok s) :
    bench.AnswersYaw b i s.rotation.z
      (s.rotation.z.remainderBy 360) := by
  have hType := Slot.connectedType_of_state hState
  have hYaw :
      (SensorField.rotation .z).held (bench.slot b i) =
        s.rotation.z :=
    SensorField.held_of_state (f := .rotation .z) hState
  have hAnswers :
      bench.SensorsAnswer b i
        (fun f => f.held (bench.slot b i)) :=
    sensorsAnswer_held hBench
  rw [← hYaw]
  constructor
  case heading => exact hAnswers.driver (.imu .heading) hType
  case degrees => exact hAnswers.driver (.imu .degrees) hType
  case rawHeading =>
    intro t h hHandle
    exact hAnswers.raw t h .headingGet _ hHandle hType rfl
  case rawDegrees =>
    intro t h hHandle
    exact hAnswers.raw t h .degreesGet _ hHandle hType rfl

/-
  In every reachable bench, an inertial sensor in reach answers
  its yaw and what the yaw wraps to within one turn, and it
  does so for every yaw that is published.
-/
theorem yaw_wraps_exactly
    (hReach : bench.Reachable)
    (hType : (bench.slot b i).connectedType = some .imu) :
    (∃ wrapped,
      bench.AnswersYaw b i
        ((SensorField.rotation .z).held (bench.slot b i)) wrapped ∧
      Binary64.WrapsTo
        ((SensorField.rotation .z).held (bench.slot b i)) 360
        wrapped) ∧
    ∀ z : Binary64,
      ∃ wrapped,
        (bench.step (.slot b i (.turnTo z))).1.AnswersYaw b i z
          wrapped ∧
        z.WrapsTo 360 wrapped := by
  have hWraps (z : Binary64) : z.WrapsTo 360 (z.remainderBy 360) :=
    z.wrapsTo_remainderBy (by decide) (by decide)
  rcases (hReach.coherent b i).stateOf (k := .imu) hType with
    ⟨s, hState⟩
  constructor
  · rw [SensorField.held_of_state (f := .rotation .z) hState]
    exact ⟨_, answersYaw_of_state hReach.coherent hState, hWraps _⟩
  · intro z
    have hAfter :=
      stateOf_of_update (k := .imu)
        (bench.callOn?_slot b i (.turnTo z)) rfl hState
    exact ⟨_, answersYaw_of_state (hReach.step _).coherent hAfter,
      hWraps z⟩

end Yaws

/- An inertial sensor that was turned back by two turns and more. -/
def spun
    (b : Fin n) : List (Step n m) :=
  [.slot b 3 (.presence (.plugIn .imu)),
    .slot b 3 (.turnTo ⟨0xc086a80000000000⟩)]

/-
  What is left of it is five degrees back. Of two whole turns
  back no degree is left but the sign, and what is infinite
  does not wrap to any number.
-/
theorem yaw_wraps_exactly_spun :
    let start : Bench 1 1 :=
      fresh (.manual ⟨7⟩) (Vector.replicate 1 {}) #v[0]
    let bench := (start.run (spun 0)).1
    bench.AnswersYaw 0 ⟨3, by decide⟩ ⟨0xc086a80000000000⟩
      ⟨0xc014000000000000⟩ ∧
    (bench.step
        (.slot 0 3 (.turnTo ⟨0xc086800000000000⟩))).1.AnswersYaw 0
      ⟨3, by decide⟩ ⟨0xc086800000000000⟩ ⟨0x8000000000000000⟩ ∧
    ∃ wrapped,
      (bench.step (.slot 0 3 (.turnTo .infinity))).1.AnswersYaw 0
        ⟨3, by decide⟩ .infinity wrapped ∧
      wrapped.isNaN = true := by
  intro start bench
  have hReach : bench.Reachable :=
    (Reachable.fresh _ _ _).run (spun 0)
  have hType :
      (bench.slot 0 ⟨3, by decide⟩).connectedType = some .imu := by
    decide +kernel
  have hHeld :
      (SensorField.rotation .z).held (bench.slot 0 ⟨3, by decide⟩) =
        (⟨0xc086a80000000000⟩ : Binary64) := by
    decide +kernel
  have hWrapped {z wrapped left : Binary64}
      (hWraps : z.WrapsTo 360 wrapped)
      (hFinite : z.isFinite = true)
      (hLeft : z.remainderBy 360 = left) :
      wrapped = left := by
    have hRemains : z.RemainsOf 360 (z.remainderBy 360) :=
      Binary64.remainsOf_remainderBy hFinite (by decide) (by decide)
    rw [← hLeft]
    exact (hWraps.only hFinite _ hRemains).symm
  rcases yaw_wraps_exactly hReach hType with
    ⟨⟨wrapped, hAnswers, hWraps⟩, hTurned⟩
  rw [hHeld] at hAnswers hWraps
  refine ⟨?_, ?_, ?_⟩
  · have hFive :
        (⟨0xc086a80000000000⟩ : Binary64).remainderBy 360 =
          ⟨0xc014000000000000⟩ := by
      decide +kernel
    rw [hWrapped hWraps (by decide +kernel) hFive] at hAnswers
    exact hAnswers
  · rcases hTurned ⟨0xc086800000000000⟩ with
      ⟨wrapped, hAnswers, hWraps⟩
    have hNone :
        (⟨0xc086800000000000⟩ : Binary64).remainderBy 360 =
          ⟨0x8000000000000000⟩ := by
      decide +kernel
    rw [hWrapped hWraps (by decide +kernel) hNone] at hAnswers
    exact hAnswers
  · rcases hTurned .infinity with ⟨wrapped, hAnswers, hWraps⟩
    exact ⟨wrapped, hAnswers, hWraps.nan (by decide +kernel)⟩

end Bench

end DeviceBay
