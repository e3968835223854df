import DeviceBay.Proofs.Bench.RawRefinement
import DeviceBay.Proofs.Bench.Target
import DeviceBay.Proofs.Binary64.Truncation
import DeviceBay.Proofs.Motor.Registers

/-
  This file proves which signed word a motor answers for its
  position, whatever bits the position is made of. The driver
  pairs it with the timestamp of the slot, and the raw call
  puts the timestamp into a buffer, which keeps what it held
  when there is no motor.

  Key definitions include:
    * `Bench.AnswersPosition`

  Main declarations:
    * `Bench.answersPosition_of_state`
    * `Bench.raw_position_rounds_toward_zero`
-/

namespace DeviceBay

namespace Bench

variable {n m : Nat}

/-
  All that ask for the position of the motor in a slot as a
  signed word are answered with the same word, with the
  timestamp of the slot beside it.
-/
structure AnswersPosition
    (bench : Bench n m)
    (b : Fin n)
    (i : SlotIndex)
    (word : Int32) : Prop where
  driver :
    (bench.step (.slot b i (.motor (.ask .rawPosition)))).2.answer =
      .value (.stampedPosition word (bench.slot b i).timestamp)
  raw (t : Fin m) (h : Handle n) (held : UInt32)
      (hHandle : bench.resolve t h = some (b, i)) :
    (bench.step
        (.device t h
          (.motor (.positionRawGet held)))).2.answer.rawValue? =
      some
        (.codedTimestamp word (bench.slot b i).timestamp.millis)

section Positions

variable {bench : Bench n m} {b : Fin n} {i : SlotIndex}

theorem answersPosition_of_state
    {state : Motor}
    (hState : (bench.slot b i).stateOf .motor = .ok state) :
    bench.AnswersPosition b i state.position.toInt32 := by
  have hDriver :
      (bench.step
          (.slot b i (.motor (.ask .rawPosition)))).2.answer =
        .value
          (.stampedPosition state.position.toInt32
            (bench.slot b i).timestamp) :=
    answer_ask_of_state hState .rawPosition
  refine ⟨hDriver, ?_⟩
  intro t h held hHandle
  have hRefines :
      bench.Refines (.device t h (.motor (.positionRawGet held)))
        (.slot b i (.motor (.ask .rawPosition)))
        (.stamped held) :=
    refines_of_settle hHandle
      ((RawMotorCall.positionRawGet held).run_of_typed _ _ _ _ rfl)
      rfl
  rw [hRefines.value, hDriver]
  rfl

theorem stateOf_after_command
    {state : Motor}
    (hState : (bench.slot b i).stateOf .motor = .ok state)
    (c : MotorCommand) :
    ((bench.step (.slot b i (.motor (.tell c)))).1.slot b
        i).stateOf .motor =
      .ok (c.apply bench.owners state) :=
  stateOf_of_update (k := .motor) (bench.callOn?_slot b i _) rfl
    hState

/-
  In every reachable bench, a motor in reach answers one word
  for its position, which is what the position is rounded to,
  and it does so for every position that it is told to be at.
  Without a motor the raw call fails, and the timestamp of the
  caller stays as it was.
-/
theorem raw_position_rounds_toward_zero
    (hReach : bench.Reachable)
    (b : Fin n)
    (i : SlotIndex) :
    ((bench.slot b i).connectedType = some .motor →
      (∃ word,
        bench.AnswersPosition b i word ∧
        ∀ w,
          (MotorRegister.held (bench.slot b i) .position).RoundsTo
              w ↔
            w = word) ∧
      ∀ x : Binary64,
        ∃ word,
          (bench.step
              (.slot b i
                (.motor
                  (.tell (.setPosition x))))).1.AnswersPosition b i
            word ∧
          ∀ w, x.RoundsTo w ↔ w = word) ∧
    ((bench.slot b i).connectedType ≠ some .motor →
      ∀ (t : Fin m) (h : Handle n) (held : UInt32),
        bench.resolve t h = some (b, i) →
          (bench.step
              (.device t h
                (.motor
                  (.positionRawGet held)))).2.answer.rawValue? =
            some (.codedTimestamp failureCode held)) := by
  constructor
  · intro hType
    rcases (hReach.coherent b i).stateOf (k := .motor) hType with
      ⟨state, hState⟩
    constructor
    · refine ⟨_, answersPosition_of_state hState, ?_⟩
      rw [MotorRegister.held_of_state hState]
      exact state.position.roundsTo_iff
    · intro x
      have hAfter := stateOf_after_command hState (.setPosition x)
      exact ⟨_, answersPosition_of_state hAfter, x.roundsTo_iff⟩
  · intro hType t h held hHandle
    exact (motor_spares (c := .positionRawGet held) hHandle
      (Or.inr hType)).value

end Positions

/- A motor that was turned backward, not by a whole number. -/
def turned
    (b : Fin n) : List (Step n m) :=
  [.slot b 2 (.presence (.plugIn .motor)),
    .clock (.advance (.ofMillis 30)),
    .slot b 2
      (.motor (.tell (.setPosition ⟨0xc029cccccccccccd⟩)))]

/- It has come to minus twelve, and cannot turn too far. -/
theorem raw_position_rounds_toward_zero_turned :
    let start : Bench 1 1 :=
      fresh (.manual ⟨7⟩) (Vector.replicate 1 {}) #v[0]
    let bench := (start.run (turned 0)).1
    bench.AnswersPosition 0 ⟨2, by decide⟩ (-12) ∧
    (bench.slot 0 ⟨2, by decide⟩).timestamp = ⟨37⟩ ∧
    (bench.step
        (.slot 0 2
          (.motor
            (.tell
              (.setPosition
                Binary64.negInfinity))))).1.AnswersPosition 0
      ⟨2, by decide⟩ Int32.minValue ∧
    (bench.step
        (.device 0 (.own 6)
          (.motor (.positionRawGet 5)))).2.answer.rawValue? =
      some (.codedTimestamp failureCode 5) := by
  intro start bench
  have hReach : bench.Reachable :=
    (Reachable.fresh _ _ _).run (turned 0)
  have hType :
      (bench.slot 0 ⟨2, by decide⟩).connectedType =
        some .motor := by
    decide +kernel
  have hVacant :
      (bench.slot 0 ⟨6, by decide⟩).connectedType ≠
        some .motor := by
    decide +kernel
  have hHandle :
      bench.resolve 0 (.own 6) = some (0, ⟨6, by decide⟩) := by
    decide +kernel
  have hPosition := raw_position_rounds_toward_zero hReach 0
  rcases (hPosition ⟨2, by decide⟩).1 hType with
    ⟨⟨word, hAnswers, hWord⟩, hTold⟩
  have hTurned :
      (MotorRegister.held (bench.slot 0 ⟨2, by decide⟩)
          .position).RoundsTo (-12) := by
    rw [Binary64.roundsTo_iff]
    decide +kernel
  refine ⟨?_, by decide +kernel, ?_, ?_⟩
  · rw [(hWord (-12)).mp hTurned]
    exact hAnswers
  · rcases hTold Binary64.negInfinity with ⟨last, hLast, hRounded⟩
    have hLowest :
        Binary64.negInfinity.RoundsTo Int32.minValue := by
      rw [Binary64.roundsTo_iff]
      decide +kernel
    rw [(hRounded Int32.minValue).mp hLowest]
    exact hLast
  · exact (hPosition ⟨6, by decide⟩).2 hVacant 0 (.own 6) 5 hHandle

end Bench

end DeviceBay
