import DeviceBay.Proofs.Slot.Guard
import DeviceBay.Surface.Call
import DeviceBay.Bench.SlotCall

/-
  This file says which driver call each raw call on a motor or
  an inertial sensor stands for and in which form it gives the
  answer, and proves that a raw call is that driver call,
  answered in that form.

  Key definitions include:
    * `RawForm`
    * `RawForm.failure`
    * `RawForm.encode`
    * `RawMotorCall.typed`
    * `RawMotorCall.form`
    * `RawImuCall.typed`
    * `RawImuCall.form`

  Main declarations:
    * `RawMotorCall.run_of_typed`
    * `RawMotorCall.run_of_undecoded`
    * `RawImuCall.run_eq`
-/

namespace DeviceBay

------------------------------------------------------------
-- Forms of raw answers
------------------------------------------------------------

/-
  What a raw call gives: nothing, a plain value of a raw type,
  or what is in a buffer of the caller after the call. A form
  with a buffer carries what the caller had put there.
-/
inductive RawForm
  | nothing
  | signed
  | unsigned
  | byte
  | float
  | flag
  | stamped (held : UInt32)
  | filled (held : List Binary64)
  | untouched (held : List Binary64)

namespace RawForm

/- The failure value of a raw type. A buffer keeps what it held. -/
def failure : RawForm → Value
  | .nothing => .unit
  | .signed => .int 2147483647
  | .unsigned => .nat 2147483647
  | .byte => .nat 255
  | .float => .float .infinity
  | .flag => .bool true
  | .stamped held => .codedTimestamp 2147483647 held
  | .filled held => .floats held
  | .untouched held => .floats held

/-
  The raw form of an answer of a driver. The raw values of all
  settings stand here apart from the tables of the surface.
-/
def encode : RawForm → Value → Value
  | .nothing, _ => .unit
  | .untouched held, _ => .floats held
  | .signed, .direction .forward => .int 1
  | .signed, .direction .reverse => .int (-1)
  | .byte, .controlMode .off => .nat 0
  | .byte, .controlMode .brake => .nat 1
  | .byte, .controlMode .hold => .nat 2
  | .byte, .controlMode .servo => .nat 3
  | .byte, .controlMode .profile => .nat 4
  | .byte, .controlMode .velocity => .nat 5
  | .byte, .controlMode .undefined => .nat 6
  | .byte, .controlMode (.unknown raw) => .nat raw.toNat
  | .byte, .brakeMode .coast => .nat 0
  | .byte, .brakeMode .brake => .nat 1
  | .byte, .brakeMode .hold => .nat 2
  | .byte, .encoderUnits .degrees => .nat 0
  | .byte, .encoderUnits .rotations => .nat 1
  | .byte, .encoderUnits .counts => .nat 2
  | .byte, .gearset .red => .nat 0
  | .byte, .gearset .green => .nat 1
  | .byte, .gearset .blue => .nat 2
  | .stamped _, .stampedPosition position t =>
      .codedTimestamp position t.millis
  | .filled _, .attitude a => .floats [a.pitch, a.roll, a.yaw]
  | _, v => v

end RawForm

------------------------------------------------------------
-- Settled replies
------------------------------------------------------------

namespace RawReply

variable {α β : Type}

theorem settle_of_ok
    (errno : Errno)
    (failure : Value)
    (render : α → Value)
    {reply : Reply SlotError α}
    {value : α}
    (hOk : reply.result = .ok value) :
    settle errno failure render reply =
      { value := render value
        errno := errno
        slot := reply.slot
        clock := reply.clock
        readings := reply.readings
        events := reply.events } := by
  simp only [settle, hOk]

theorem settle_of_error
    (errno : Errno)
    (failure : Value)
    (render : α → Value)
    {reply : Reply SlotError α}
    {e : SlotError}
    (hError : reply.result = .error e) :
    settle errno failure render reply =
      { value := failure
        errno := e.errno
        slot := reply.slot
        clock := reply.clock
        readings := reply.readings
        events := reply.events ++ [.guardFailed e] } := by
  simp only [settle, hError]

@[simp]
theorem settle_slot
    (errno : Errno)
    (failure : Value)
    (render : α → Value)
    (reply : Reply SlotError α) :
    (settle errno failure render reply).slot = reply.slot := by
  unfold settle
  split <;> rfl

@[simp]
theorem settle_clock
    (errno : Errno)
    (failure : Value)
    (render : α → Value)
    (reply : Reply SlotError α) :
    (settle errno failure render reply).clock = reply.clock := by
  unfold settle
  split <;> rfl

@[simp]
theorem settle_readings
    (errno : Errno)
    (failure : Value)
    (render : α → Value)
    (reply : Reply SlotError α) :
    (settle errno failure render reply).readings =
      reply.readings := by
  unfold settle
  split <;> rfl

/- What a result is turned into first may be left to the rendering. -/
theorem settle_map
    (errno : Errno)
    (failure : Value)
    (render : β → Value)
    (f : α → β)
    (reply : Reply SlotError α) :
    settle errno failure render (reply.map f) =
      settle errno failure (fun value => render (f value))
        reply := by
  cases hResult : reply.result with
  | error e =>
      have hMapped : (reply.map f).result = .error e := by
        rw [Reply.map_result, hResult]
        rfl
      rw [settle_of_error errno failure _ hMapped,
        settle_of_error errno failure _ hResult]
      rfl
  | ok value =>
      have hMapped : (reply.map f).result = .ok (f value) := by
        rw [Reply.map_result, hResult]
        rfl
      rw [settle_of_ok errno failure _ hMapped,
        settle_of_ok errno failure _ hResult]
      rfl

end RawReply

------------------------------------------------------------
-- Decoded codes
------------------------------------------------------------

theorem exists_of_map_eq_ok
    {ε α β : Type}
    {f : α → β}
    {result : Except ε α}
    {value : β}
    (hMap : result.map f = .ok value) :
    ∃ a, result = .ok a ∧ f a = value := by
  cases result with
  | error e => cases hMap
  | ok a =>
      cases hMap
      exact ⟨a, rfl, rfl⟩

theorem eq_error_of_map_eq_error
    {ε α β : Type}
    {f : α → β}
    {result : Except ε α}
    {e : ε}
    (hMap : result.map f = .error e) :
    result = .error e := by
  cases result with
  | error e =>
      cases hMap
      rfl
  | ok a => cases hMap

------------------------------------------------------------
-- Motor
------------------------------------------------------------

namespace RawMotorCall

/-
  The driver call that a raw call stands for. A raw code that
  stands for no setting gives no driver call.
-/
def typed : RawMotorCall → Except UnknownVariant MotorCall
  | .velocitySet velocity => .ok (.tell (.setVelocity velocity))
  | .velocityUpdate velocity =>
      .ok (.tell (.updateVelocity velocity))
  | .voltageSet millivolts => .ok (.tell (.setVoltage millivolts))
  | .velocityGet => .ok (.ask .velocity)
  | .actualVelocityGet => .ok (.ask .actualVelocity)
  | .directionGet => .ok (.ask .direction)
  | .modeSet raw => .ok (.tell (.setMode (.ofCode raw)))
  | .modeGet => .ok (.ask .mode)
  | .pwmSet duty => .ok (.ignored (.setPwm duty))
  | .pwmGet => .ok (.ignored .pwm)
  | .currentLimitSet milliamps =>
      .ok (.tell (.setCurrentLimit milliamps))
  | .currentLimitGet => .ok (.ask .currentLimit)
  | .voltageLimitSet millivolts =>
      .ok (.tell (.setVoltageLimit millivolts))
  | .voltageLimitGet => .ok (.ask .voltageLimit)
  | .positionTuningSet owner =>
      .ok (.tell (.setPositionTuning owner))
  | .velocityTuningSet owner =>
      .ok (.tell (.setVelocityTuning owner))
  | .currentGet => .ok (.ask .current)
  | .voltageGet => .ok (.ask .voltage)
  | .powerGet => .ok (.ask .power)
  | .torqueGet => .ok (.ask .torque)
  | .efficiencyGet => .ok (.ask .efficiency)
  | .temperatureGet => .ok (.ask .temperature)
  | .overTemperatureGet => .ok (.ask .isOverTemperature)
  | .currentLimitFlagGet => .ok (.ask .isCurrentLimited)
  | .faultsGet => .ok (.ask .faults)
  | .zeroVelocityFlagGet => .ok (.ask .isZeroVelocity)
  | .zeroPositionFlagGet => .ok (.ask .isZeroPosition)
  | .flagsGet => .ok (.ask .flags)
  | .reverseFlagSet reversed => .ok (.tell (.setReversed reversed))
  | .reverseFlagGet => .ok (.ask .isReversed)
  | .encoderUnitsSet raw =>
      (EncoderUnits.decode raw).map
        (fun units => .tell (.setEncoderUnits units))
  | .encoderUnitsGet => .ok (.ask .encoderUnits)
  | .brakeModeSet raw =>
      (BrakeMode.decode raw).map
        (fun mode => .tell (.setBrakeMode mode))
  | .brakeModeGet => .ok (.ask .brakeMode)
  | .positionSet position => .ok (.tell (.setPosition position))
  | .positionGet => .ok (.ask .position)
  | .positionRawGet _ => .ok (.ask .rawPosition)
  | .positionReset => .ok (.tell .resetPosition)
  | .targetGet => .ok (.ask .positionTarget)
  | .servoTargetSet position =>
      .ok (.ignored (.setServoTarget position))
  | .absoluteTargetSet position velocity =>
      .ok (.tell (.setPositionTarget position velocity))
  | .relativeTargetSet delta velocity =>
      .ok (.tell (.setRelativePositionTarget delta velocity))
  | .gearingSet raw =>
      (Gearset.decode raw).map
        (fun gearset => .tell (.setGearset gearset))
  | .gearingGet => .ok (.ask .gearset)
  | .externalProfileSet position velocity =>
      .ok (.ignored (.setExternalProfile position velocity))

/- The form in which a raw call gives its answer. -/
def form : RawMotorCall → RawForm
  | .velocityGet => .signed
  | .actualVelocityGet => .float
  | .directionGet => .signed
  | .modeGet => .byte
  | .pwmGet => .signed
  | .currentLimitGet => .signed
  | .voltageLimitGet => .signed
  | .currentGet => .signed
  | .voltageGet => .signed
  | .powerGet => .float
  | .torqueGet => .float
  | .efficiencyGet => .float
  | .temperatureGet => .float
  | .overTemperatureGet => .flag
  | .currentLimitFlagGet => .flag
  | .faultsGet => .unsigned
  | .zeroVelocityFlagGet => .flag
  | .zeroPositionFlagGet => .flag
  | .flagsGet => .unsigned
  | .reverseFlagGet => .flag
  | .encoderUnitsGet => .byte
  | .brakeModeGet => .byte
  | .positionGet => .float
  | .positionRawGet timestamp => .stamped timestamp
  | .targetGet => .float
  | .gearingGet => .byte
  | _ => .nothing

section Motor

variable (env : Env) (clock : Clock) (slot : Slot) (errno : Errno)

/- A query is the driver's query if both render answers alike. -/
theorem run_of_ask
    {c : RawMotorCall}
    {q : MotorQuery}
    {render : q.Answer → Value}
    (hRun :
      c.run env clock slot errno =
        ask env clock slot errno q c.form.failure render)
    (hRender : ∀ a, render a = c.form.encode (q.value a)) :
    c.run env clock slot errno =
      .settle errno c.form.failure c.form.encode
        ((MotorCall.ask q).run env clock slot) := by
  have hEncode :
      render = fun a => c.form.encode (q.value a) :=
    funext hRender
  rw [hRun, ask, hEncode, MotorCall.run, ← Reply.map_still,
    RawReply.settle_map]

theorem tell_eq
    (c : MotorCommand) :
    tell env clock slot errno c =
      .settle errno .unit RawForm.nothing.encode
        ((MotorCall.tell c).run env clock slot) := by
  rw [tell, RawReply.settleUnit, MotorCall.run,
    RawReply.settle_map]
  rfl

theorem run_of_ignored
    {c : RawMotorCall}
    {call : MotorIgnored}
    {render : call.Answer → Value}
    (hRun :
      c.run env clock slot errno =
        .settle errno c.form.failure render (call.run clock slot))
    (hRender : ∀ a, render a = c.form.encode (call.value a)) :
    c.run env clock slot errno =
      .settle errno c.form.failure c.form.encode
        ((MotorCall.ignored call).run env clock slot) := by
  have hEncode :
      render = fun a => c.form.encode (call.value a) :=
    funext hRender
  rw [hRun, hEncode, MotorCall.run, RawReply.settle_map]

/- A command that the guard refuses does nothing at all. -/
theorem tell_of_refused
    {e : SlotError}
    (c : MotorCommand)
    (hRefused : slot.validate .motor = .error e) :
    tell env clock slot errno c =
      .settleUnit errno (.still slot clock (.error e)) := by
  have hUpdate :=
    slot.update_of_refused (k := .motor) clock
      (c.apply env.owners) hRefused
  rw [tell, MotorCommand.run, hUpdate]
  rfl

/- A code that reads back is a command made from its value. -/
theorem tellDecoded_of_ok
    {α : Type}
    {decoded : Except UnknownVariant α}
    {value : α}
    (command : α → MotorCommand)
    (hDecoded : decoded = .ok value) :
    tellDecoded env clock slot errno decoded command =
      tell env clock slot errno (command value) := by
  unfold tellDecoded
  split
  · rename_i e hRefused
    exact (tell_of_refused env clock slot errno _ hRefused).symm
  · simp only [hDecoded]

theorem tellDecoded_of_error
    {α : Type}
    {decoded : Except UnknownVariant α}
    {e : UnknownVariant}
    (command : α → MotorCommand)
    (hDecoded : decoded = .error e) :
    tellDecoded env clock slot errno decoded command =
      match slot.validate .motor with
      | .error refusal =>
          .settleUnit errno (.still slot clock (.error refusal))
      | .ok () => .reject slot clock e := by
  subst hDecoded
  rfl

/- A raw call is the driver call that it stands for. -/
theorem run_of_typed
    {c : RawMotorCall}
    {call : MotorCall}
    (hTyped : c.typed = .ok call) :
    c.run env clock slot errno =
      .settle errno c.form.failure c.form.encode
        (call.run env clock slot) := by
  cases c
  -- The calls that change a register.
  case velocitySet | velocityUpdate | voltageSet | modeSet |
      currentLimitSet | voltageLimitSet | positionTuningSet |
      velocityTuningSet | reverseFlagSet | positionSet |
      positionReset | absoluteTargetSet | relativeTargetSet =>
    cases hTyped
    exact tell_eq env clock slot errno _
  -- The calls that read one.
  case velocityGet | actualVelocityGet | currentLimitGet |
      voltageLimitGet | currentGet | voltageGet | powerGet |
      torqueGet | efficiencyGet | temperatureGet |
      overTemperatureGet | currentLimitFlagGet | faultsGet |
      zeroVelocityFlagGet | zeroPositionFlagGet | flagsGet |
      reverseFlagGet | positionGet | positionRawGet |
      targetGet =>
    cases hTyped
    exact run_of_ask env clock slot errno rfl (fun _ => rfl)
  -- What is read has a raw value of its own for each case of it.
  case directionGet | modeGet | encoderUnitsGet | brakeModeGet |
      gearingGet =>
    cases hTyped
    apply run_of_ask env clock slot errno rfl
    intro setting
    cases setting <;> rfl
  case pwmSet | pwmGet | servoTargetSet | externalProfileSet =>
    cases hTyped
    exact run_of_ignored env clock slot errno rfl (fun _ => rfl)
  -- A code has to read back before there is a call to compare with.
  case encoderUnitsSet raw =>
    rcases exists_of_map_eq_ok hTyped with ⟨units, hDecoded, rfl⟩
    exact (tellDecoded_of_ok env clock slot errno _ hDecoded).trans
      (tell_eq env clock slot errno _)
  case brakeModeSet raw =>
    rcases exists_of_map_eq_ok hTyped with ⟨mode, hDecoded, rfl⟩
    exact (tellDecoded_of_ok env clock slot errno _ hDecoded).trans
      (tell_eq env clock slot errno _)
  case gearingSet raw =>
    rcases exists_of_map_eq_ok hTyped with ⟨gearset, hDecoded, rfl⟩
    exact (tellDecoded_of_ok env clock slot errno _ hDecoded).trans
      (tell_eq env clock slot errno _)

/- A code that stands for nothing is refused behind the guard. -/
theorem run_of_undecoded
    {c : RawMotorCall}
    {e : UnknownVariant}
    (hUndecoded : c.typed = .error e) :
    c.run env clock slot errno =
      match slot.validate .motor with
      | .error refusal =>
          .settleUnit errno (.still slot clock (.error refusal))
      | .ok () => .reject slot clock e := by
  cases c
  case encoderUnitsSet raw =>
    exact tellDecoded_of_error env clock slot errno _
      (eq_error_of_map_eq_error hUndecoded)
  case brakeModeSet raw =>
    exact tellDecoded_of_error env clock slot errno _
      (eq_error_of_map_eq_error hUndecoded)
  case gearingSet raw =>
    exact tellDecoded_of_error env clock slot errno _
      (eq_error_of_map_eq_error hUndecoded)
  all_goals cases hUndecoded

end Motor

/- The calls that take a code give nothing. -/
theorem form_of_undecoded
    {c : RawMotorCall}
    {e : UnknownVariant}
    (hUndecoded : c.typed = .error e) :
    c.form = .nothing := by
  cases c
  case encoderUnitsSet raw => rfl
  case brakeModeSet raw => rfl
  case gearingSet raw => rfl
  all_goals cases hUndecoded

end RawMotorCall

------------------------------------------------------------
-- Inertial sensor
------------------------------------------------------------

namespace RawImuCall

/- The driver call that a raw call stands for. -/
def typed : RawImuCall → ImuCall
  | .reset => .reset
  | .headingGet => .ask .heading
  | .degreesGet => .ask .degrees
  | .quaternionGet _ => .quaternion
  | .attitudeGet _ => .ask .attitude
  | .rawGyroGet _ => .ask .rawGyro
  | .rawAccelGet _ => .ask .rawAccel
  | .statusGet => .status
  | .modeSet mode => .ignored (.setMode mode)
  | .modeGet => .mode
  | .dataRateSet rate => .ignored (.setDataRate rate)

/- The form in which a raw call gives its answer. -/
def form : RawImuCall → RawForm
  | .headingGet => .float
  | .degreesGet => .float
  | .quaternionGet held =>
      .untouched [held.x, held.y, held.z, held.w]
  | .attitudeGet held =>
      .filled [held.pitch, held.roll, held.yaw]
  | .rawGyroGet held => .filled [held.x, held.y, held.z, held.w]
  | .rawAccelGet held => .filled [held.x, held.y, held.z, held.w]
  | .statusGet => .unsigned
  | .modeGet => .unsigned
  | _ => .nothing

section Imu

variable (env : Env) (clock : Clock) (slot : Slot) (errno : Errno)

theorem run_of_ask
    {c : RawImuCall}
    {q : ImuQuery}
    {render : q.Answer → Value}
    (hRun :
      c.run env clock slot errno =
        ask clock slot errno q c.form.failure render)
    (hRender : ∀ a, render a = c.form.encode (q.value a)) :
    c.run env clock slot errno =
      .settle errno c.form.failure c.form.encode
        ((ImuCall.ask q).run env clock slot) := by
  have hEncode :
      render = fun a => c.form.encode (q.value a) :=
    funext hRender
  rw [hRun, ask, hEncode, ImuCall.run, ← Reply.map_still,
    RawReply.settle_map]

/- A raw call is the driver call that it stands for. -/
theorem run_eq
    (c : RawImuCall) :
    c.run env clock slot errno =
      .settle errno c.form.failure c.form.encode
        (c.typed.run env clock slot) := by
  cases c
  case headingGet | degreesGet | attitudeGet | rawGyroGet |
      rawAccelGet =>
    exact run_of_ask env clock slot errno rfl (fun _ => rfl)
  case quaternionGet | modeGet =>
    simp only [typed, ImuCall.run, ← Reply.map_still,
      RawReply.settle_map]
    rfl
  case reset | statusGet | modeSet | dataRateSet =>
    simp only [typed, ImuCall.run, RawReply.settle_map]
    rfl

end Imu

end RawImuCall

end DeviceBay
