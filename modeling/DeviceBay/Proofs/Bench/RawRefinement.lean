import DeviceBay.Proofs.Bench.Refusal

/-
  This file proves that the raw surface refines the drivers: a
  raw call on a motor or an inertial sensor, through a handle
  of any bay, leaves the bench as the driver call does, and
  gives the raw form of what the driver answers.

  Key definitions include:
    * `RawForm.ofAnswer`
    * `Answer.rawValue?`
    * `Bench.Refines`
    * `Bench.Spares`

  Main declarations:
    * `Bench.refines_of_settle`
    * `Bench.motor_spares`
    * `Bench.raw_calls_refine_drivers`
-/

namespace DeviceBay

/- What a raw call makes of the answer of the driver. -/
def RawForm.ofAnswer
    (form : RawForm) : Answer → Value
  | .value v => form.encode v
  | _ => form.failure

/- The value that a raw call gave, if it was made. -/
def Answer.rawValue? : Answer → Option Value
  | .raw v _ => some v
  | _ => none

namespace Bench

variable {n m : Nat}

------------------------------------------------------------
-- Refinement
------------------------------------------------------------

/-
  A raw step does to the bays, the clock and the owners what a
  driver step does, and its value is made from the driver's
  answer alone.
-/
structure Refines
    (bench : Bench n m)
    (raw typed : Step n m)
    (form : RawForm) : Prop where
  bays : (bench.step raw).1.bays = (bench.step typed).1.bays
  clock : (bench.step raw).1.clock = (bench.step typed).1.clock
  owners : (bench.step raw).1.owners = (bench.step typed).1.owners
  readings :
    (bench.step raw).2.readings = (bench.step typed).2.readings
  value :
    (bench.step raw).2.answer.rawValue? =
      some (form.ofAnswer (bench.step typed).2.answer)

/-
  A raw step that changes nothing in any slot and gives the
  failure value of its form.
-/
structure Spares
    (bench : Bench n m)
    (raw : Step n m)
    (form : RawForm) : Prop where
  bays : (bench.step raw).1.bays = bench.bays
  value :
    (bench.step raw).2.answer.rawValue? = some form.failure

------------------------------------------------------------
-- Settled driver calls
------------------------------------------------------------

theorem settle_value
    (errno : Errno)
    (form : RawForm)
    (reply : Reply SlotError Value) :
    (RawReply.settle errno form.failure form.encode reply).value =
      form.ofAnswer
        (.ofResult (reply.mapError Failure.slot).result) := by
  rw [Reply.mapError_result]
  cases hResult : reply.result with
  | ok v =>
      rw [RawReply.settle_of_ok errno _ _ hResult]
      rfl
  | error e =>
      rw [RawReply.settle_of_error errno _ _ hResult]
      rfl

/- A raw call that settles a driver's reply refines the driver. -/
theorem refines_of_settle
    {bench : Bench n m}
    {s : Fin m}
    {h : Handle n}
    {b : Fin n}
    {i : SlotIndex}
    {raw : DeviceCall}
    {call : SlotCall}
    {form : RawForm}
    {reply : Reply SlotError Value}
    (hHandle : bench.resolve s h = some (b, i))
    (hRaw :
      raw.run (bench.env b) bench.clock (bench.slot b i)
          (bench.surface s).errno =
        .settle (bench.surface s).errno form.failure form.encode
          reply)
    (hCall :
      call.run (bench.env b) bench.clock (bench.slot b i) =
        reply.mapError .slot) :
    bench.Refines (.device s h raw) (.slot b i call) form := by
  have hDevice := stepDevice_eq hHandle hRaw
  have hSlot := stepSlot_eq hCall
  constructor
  · rw [hDevice, hSlot]
    simp only [RawReply.settle_slot, Reply.mapError_slot]
    rfl
  · rw [hDevice, hSlot]
    exact RawReply.settle_clock _ _ _ reply
  · rw [hDevice, hSlot]
    rfl
  · rw [hDevice, hSlot]
    exact RawReply.settle_readings _ _ _ reply
  · rw [hDevice, hSlot]
    exact congrArg some (settle_value _ form reply)

theorem spares_of_run
    {bench : Bench n m}
    {s : Fin m}
    {h : Handle n}
    {b : Fin n}
    {i : SlotIndex}
    {raw : DeviceCall}
    {form : RawForm}
    {reply : RawReply}
    (hHandle : bench.resolve s h = some (b, i))
    (hRaw :
      raw.run (bench.env b) bench.clock (bench.slot b i)
          (bench.surface s).errno =
        reply)
    (hSlot : reply.slot = bench.slot b i)
    (hValue : reply.value = form.failure) :
    bench.Spares (.device s h raw) form := by
  have hDevice := stepDevice_eq hHandle hRaw
  constructor
  · rw [hDevice]
    exact setSlot_bays_of_eq bench b i hSlot
  · rw [hDevice]
    exact congrArg some hValue

/-
  A raw call on a motor does nothing to any slot if there is no
  motor, or if its code stands for nothing.
-/
theorem motor_spares
    {bench : Bench n m}
    {s : Fin m}
    {h : Handle n}
    {b : Fin n}
    {i : SlotIndex}
    {c : RawMotorCall}
    (hHandle : bench.resolve s h = some (b, i))
    (hIdle :
      (∃ e, c.typed = .error e) ∨
        (bench.slot b i).connectedType ≠ some .motor) :
    bench.Spares (.device s h (.motor c)) c.form := by
  cases hTyped : c.typed with
  | error e =>
      have hRun :=
        c.run_of_undecoded (bench.env b) bench.clock
          (bench.slot b i) (bench.surface s).errno hTyped
      rw [c.form_of_undecoded hTyped]
      -- The guard decides which failure it is, but not its value.
      cases hGuard : (bench.slot b i).validate .motor with
      | error refusal =>
          rw [hGuard] at hRun
          exact spares_of_run hHandle hRun rfl rfl
      | ok passed =>
          rw [hGuard] at hRun
          exact spares_of_run hHandle hRun rfl rfl
  | ok call =>
      have hType :
          (bench.slot b i).connectedType ≠ some .motor := by
        rcases hIdle with ⟨e, hError⟩ | hType
        · cases hTyped.symm.trans hError
        · exact hType
      rcases Slot.exists_refusal_of_ne hType with ⟨e, hGuard⟩
      have hRefused :=
        call.run_of_refused (bench.env b) bench.clock hGuard
      have hRun := c.run_of_typed (bench.env b) bench.clock
        (bench.slot b i) (bench.surface s).errno hTyped
      rw [RawReply.settle_of_error _ _ _ hRefused.result] at hRun
      exact spares_of_run hHandle hRun hRefused.slot_eq rfl

/-
  Every raw call on a motor or an inertial sensor refines the
  driver call that it stands for, whichever bay its handle is
  of. What stands for none, or finds no motor, changes nothing.
-/
theorem raw_calls_refine_drivers
    {bench : Bench n m}
    {s : Fin m}
    {h : Handle n}
    {b : Fin n}
    {i : SlotIndex}
    (hHandle : bench.resolve s h = some (b, i)) :
    (∀ (c : RawMotorCall) (call : MotorCall),
      c.typed = .ok call →
        bench.Refines (.device s h (.motor c))
          (.slot b i (.motor call)) c.form) ∧
    (∀ c : RawImuCall,
      bench.Refines (.device s h (.imu c))
        (.slot b i (.imu c.typed)) c.form) ∧
    (∀ c : RawMotorCall,
      (∃ e, c.typed = .error e) ∨
          (bench.slot b i).connectedType ≠ some .motor →
        bench.Spares (.device s h (.motor c)) c.form) := by
  refine ⟨?_, ?_, ?_⟩
  · intro c call hTyped
    exact refines_of_settle hHandle
      (c.run_of_typed _ _ _ _ hTyped) rfl
  · intro c
    exact refines_of_settle hHandle (c.run_eq _ _ _ _) rfl
  · intro c hIdle
    exact motor_spares hHandle hIdle

/- A motor in the second bay, reached from the first one. -/
def stray : Bench 2 1 :=
  let start : Bench 2 1 :=
    fresh (.manual ⟨7⟩) (Vector.replicate 2 {}) #v[0]
  (start.step (.slot 1 5 (.presence (.plugIn .motor)))).1

theorem raw_calls_refine_drivers_elsewhere :
    stray.resolve 0 (.elsewhere 1 5) =
      some (1, ⟨5, by decide⟩) ∧
    stray.Refines
      (.device 0 (.elsewhere 1 5) (.motor (.brakeModeSet 2)))
      (.slot 1 5 (.motor (.tell (.setBrakeMode .hold))))
      .nothing ∧
    stray.Spares
      (.device 0 (.elsewhere 1 5) (.motor (.brakeModeSet 9)))
      .nothing := by
  have hHandle :
      stray.resolve 0 (.elsewhere 1 5) =
        some (1, ⟨5, by decide⟩) := rfl
  have hCalls := raw_calls_refine_drivers hHandle
  refine ⟨hHandle, ?_, ?_⟩
  · exact hCalls.1 (.brakeModeSet 2) _ rfl
  · exact hCalls.2.2 (.brakeModeSet 9) (Or.inl ⟨_, rfl⟩)

end Bench

end DeviceBay
