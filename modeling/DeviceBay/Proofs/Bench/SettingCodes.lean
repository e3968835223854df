import DeviceBay.Proofs.Bench.MotorMemory
import DeviceBay.Proofs.Bench.RawRefinement
import DeviceBay.Proofs.Motor.Settings

/-
  This file proves what becomes of the raw codes that a surface
  is given for the settings of a motor. A code is taken, and
  then answered until the setting is given another one, or it
  stands for nothing and changes nothing. An answer with the
  code of a failure is one of a failure, but for a control mode
  that was given this code.

  Key definitions include:
    * `Bench.settingAnswer`
    * `Bench.afterCode`
    * `Bench.TakesCode`
    * `Bench.RefusesCode`

  Main declarations:
    * `Bench.stepDevice_of_answered`
    * `Bench.stepDevice_of_undecoded`
    * `Bench.settingAnswer_of_state`
    * `Bench.takesCode_of_decode`
    * `Bench.refusesCode_of_decode`
    * `Bench.raw_settings_read_back`
    * `Bench.setting_codes_tell_the_guard`
    * `Bench.mode_code_is_ambiguous`
-/

namespace DeviceBay

namespace Bench

variable {n m : Nat}

------------------------------------------------------------
-- Answers
------------------------------------------------------------

/- What a surface answers for a setting. -/
def settingAnswer
    (bench : Bench n m)
    (t : Fin m)
    (h : Handle n)
    (r : MotorSetting) : Answer :=
  (bench.step (.device t h (.motor r.getCall))).2.answer

/- The bench after a surface was given a code for a setting. -/
def afterCode
    (bench : Bench n m)
    (t : Fin m)
    (h : Handle n)
    (r : MotorSetting)
    (raw : UInt8) : Bench n m :=
  (bench.step (.device t h (.motor (r.setCall raw)))).1

/- A handle is of the same slot after any step. -/
theorem step_resolve
    (bench : Bench n m)
    (s : Step n m)
    (t : Fin m)
    (h : Handle n) :
    (bench.step s).1.resolve t h = bench.resolve t h := by
  cases h with
  | own i => rw [resolve, resolve, step_view]
  | elsewhere b i => rfl

section Answers

variable {bench : Bench n m} {t : Fin m} {h : Handle n}
variable {b : Fin n} {i : SlotIndex}

/-
  A raw call on a motor that the driver answers: the bench is
  as the driver leaves it, and the error cell is as it was.
-/
theorem stepDevice_of_answered
    {c : RawMotorCall}
    {call : MotorCall}
    {reply : Reply SlotError Value}
    {v : Value}
    (hHandle : bench.resolve t h = some (b, i))
    (hTyped : c.typed = .ok call)
    (hReply :
      call.run (bench.env b) bench.clock (bench.slot b i) = reply)
    (hAnswered : reply.result = .ok v) :
    bench.step (.device t h (.motor c)) =
      (bench.settle b i reply.slot reply.clock,
        { answer :=
            .raw (c.form.encode v) (bench.surface t).errno
          readings := reply.readings
          events := reply.events }) := by
  have hRun :
      (DeviceCall.motor c).run (bench.env b) bench.clock
          (bench.slot b i) (bench.surface t).errno = _ :=
    c.run_of_typed (bench.env b) bench.clock (bench.slot b i)
      (bench.surface t).errno hTyped
  rw [hReply, RawReply.settle_of_ok _ _ _ hAnswered] at hRun
  have hErrno :=
    (bench.settle b i reply.slot reply.clock).setErrno_errno t
  rw [stepDevice_eq hHandle hRun]
  exact congrArg (fun after => (after, _)) hErrno

/-
  A raw call whose code stands for nothing, on a motor: the
  error cell is all that is different.
-/
theorem stepDevice_of_undecoded
    {c : RawMotorCall}
    {e : UnknownVariant}
    (hHandle : bench.resolve t h = some (b, i))
    (hTyped : c.typed = .error e)
    (hGuard : (bench.slot b i).validate .motor = .ok ()) :
    bench.step (.device t h (.motor c)) =
      (bench.setErrno t .invalidArgument,
        { answer := .raw .unit .invalidArgument
          events := [.rawRejected e] }) := by
  have hRun :
      (DeviceCall.motor c).run (bench.env b) bench.clock
          (bench.slot b i) (bench.surface t).errno =
        .reject (bench.slot b i) bench.clock e := by
    have hUndecoded :=
      c.run_of_undecoded (bench.env b) bench.clock
        (bench.slot b i) (bench.surface t).errno hTyped
    rw [hGuard] at hUndecoded
    exact hUndecoded
  rw [stepDevice_eq hHandle hRun]
  exact
    congrArg (fun after => (after.setErrno t .invalidArgument, _))
      (bench.settle_slot b i)

/- A motor in reach answers the code of what its register holds. -/
theorem settingAnswer_of_state
    {state : Motor}
    (hHandle : bench.resolve t h = some (b, i))
    (hState : (bench.slot b i).stateOf .motor = .ok state)
    (r : MotorSetting) :
    bench.settingAnswer t h r =
      .raw
        (.nat (r.code (r.register.held (bench.slot b i))).toNat)
        (bench.surface t).errno := by
  have hAnswer :
      r.query.ask (bench.env b) (bench.slot b i) =
        .ok
          (r.query.read (bench.env b) state
            (bench.slot b i).timestamp) :=
    Slot.look_of_state (k := .motor) _ hState
  have hAnswered :
      ((MotorCall.ask r.query).run (bench.env b) bench.clock
        (bench.slot b i)).result =
        .ok
          (r.query.value
            (r.query.read (bench.env b) state
              (bench.slot b i).timestamp)) := by
    simp only [MotorCall.run, Reply.still, hAnswer]
    rfl
  rw [settingAnswer,
    stepDevice_of_answered hHandle r.typed_getCall rfl hAnswered,
    r.form_getCall, r.encode_read,
    ← MotorRegister.held_of_state hState]

/- Without a motor in reach the answer is that of a failure. -/
theorem settingAnswer_of_refused
    {e : SlotError}
    (hHandle : bench.resolve t h = some (b, i))
    (hGuard : (bench.slot b i).validate .motor = .error e)
    (r : MotorSetting) :
    (bench.settingAnswer t h r).rawValue? =
      some (.nat failureByte.toNat) := by
  have hOther : (bench.slot b i).connectedType ≠ some .motor := by
    intro hType
    have hPassed :=
      ((bench.slot b i).validate_eq_ok_iff .motor).mpr hType
    rw [hGuard] at hPassed
    cases hPassed
  have hSpares :=
    motor_spares (c := r.getCall) hHandle (Or.inr hOther)
  rw [r.form_getCall] at hSpares
  exact hSpares.value

end Answers

------------------------------------------------------------
-- Codes that are taken, and codes that are not
------------------------------------------------------------

/-
  A code that is taken. The setting answers it from then on,
  the slot is stamped, and nothing else about the motor, the
  slot, the other slots or the error cells is different.
-/
structure TakesCode
    (bench : Bench n m)
    (t : Fin m)
    (h : Handle n)
    (b : Fin n)
    (i : SlotIndex)
    (r : MotorSetting)
    (raw : UInt8) : Prop where
  answer :
    (bench.step (.device t h (.motor (r.setCall raw)))).2.answer =
      .raw .unit (bench.surface t).errno
  code :
    (bench.afterCode t h r raw).settingAnswer t h r =
      .raw (.nat raw.toNat) (bench.surface t).errno
  readings :
    (bench.step (.device t h (.motor (r.setCall raw)))).2.readings =
      [bench.clock.now]
  surfaces : (bench.afterCode t h r raw).surfaces = bench.surfaces
  timestamp :
    ((bench.afterCode t h r raw).slot b i).timestamp =
      bench.clock.now
  registers :
    ∀ q : MotorRegister, q ≠ r.register →
      q.held ((bench.afterCode t h r raw).slot b i) =
        q.held (bench.slot b i)
  present :
    ((bench.afterCode t h r raw).slot b i).present =
      (bench.slot b i).present
  deviceType :
    ((bench.afterCode t h r raw).slot b i).deviceType =
      (bench.slot b i).deviceType
  others :
    ∀ d j, (b, i) ≠ (d, j) →
      (bench.afterCode t h r raw).slot d j = bench.slot d j

/-
  A code that is refused. The error cell says that an argument
  is invalid, no slot of any bay is different, and the setting
  answers what it answered before.
-/
structure RefusesCode
    (bench : Bench n m)
    (t : Fin m)
    (h : Handle n)
    (r : MotorSetting)
    (raw : UInt8) : Prop where
  answer :
    (bench.step (.device t h (.motor (r.setCall raw)))).2.answer =
      .raw .unit .invalidArgument
  errno :
    ((bench.afterCode t h r raw).surface t).errno =
      .invalidArgument
  readings :
    (bench.step (.device t h (.motor (r.setCall raw)))).2.readings =
      []
  bays : (bench.afterCode t h r raw).bays = bench.bays
  code :
    ((bench.afterCode t h r raw).settingAnswer t h r).rawValue? =
      (bench.settingAnswer t h r).rawValue?

section Codes

variable {bench : Bench n m} {t : Fin m} {h : Handle n}
variable {b : Fin n} {i : SlotIndex} {state : Motor}
variable {r : MotorSetting} {raw : UInt8}

theorem afterCode_resolve
    (hHandle : bench.resolve t h = some (b, i)) :
    (bench.afterCode t h r raw).resolve t h = some (b, i) :=
  (bench.step_resolve _ t h).trans hHandle

theorem typed_setCall_of_decode
    {value : r.Value}
    (hDecode : r.decode raw = .ok value) :
    (r.setCall raw).typed = .ok (.tell (r.command value)) := by
  rw [r.typed_setCall, hDecode]
  rfl

/- A code that stands for a value is the driver's command. -/
theorem callOn?_setCall
    {value : r.Value}
    (hHandle : bench.resolve t h = some (b, i))
    (hDecode : r.decode raw = .ok value) :
    bench.callOn? b i (.device t h (.motor (r.setCall raw))) =
      some (.motor (.tell (r.command value))) := by
  apply (bench.callOn?_eq_some_iff b i _ _).mpr
  simp only [target?, hHandle, DeviceCall.driverCall?,
    typed_setCall_of_decode hDecode]

theorem afterCode_slot
    {value : r.Value}
    (hHandle : bench.resolve t h = some (b, i))
    (hState : (bench.slot b i).stateOf .motor = .ok state)
    (hDecode : r.decode raw = .ok value) :
    (bench.afterCode t h r raw).slot b i =
      { bench.slot b i with
        timestamp := bench.clock.now
        state :=
          .of .motor
            ((r.command value).apply bench.owners state) } := by
  have hUpdate :=
    Slot.update_of_state (k := .motor) bench.clock
      ((r.command value).apply bench.owners) hState
  rw [afterCode, slot_of_callOn? (callOn?_setCall hHandle hDecode)]
  exact congrArg Reply.slot hUpdate

theorem stateOf_afterCode
    {value : r.Value}
    (hHandle : bench.resolve t h = some (b, i))
    (hState : (bench.slot b i).stateOf .motor = .ok state)
    (hDecode : r.decode raw = .ok value) :
    ((bench.afterCode t h r raw).slot b i).stateOf .motor =
      .ok ((r.command value).apply bench.owners state) :=
  stateOf_of_update (callOn?_setCall hHandle hDecode) rfl hState

/- Only the register of the setting holds something else. -/
theorem held_afterCode
    {value : r.Value}
    (hHandle : bench.resolve t h = some (b, i))
    (hState : (bench.slot b i).stateOf .motor = .ok state)
    (hDecode : r.decode raw = .ok value)
    (q : MotorRegister) :
    q.held ((bench.afterCode t h r raw).slot b i) =
      (MotorRegister.told? bench.owners state.position
        (r.command value) q).getD (q.held (bench.slot b i)) := by
  have hAfter := stateOf_afterCode hHandle hState hDecode
  rw [MotorRegister.held_of_state hAfter,
    MotorRegister.held_of_state hState]
  exact MotorRegister.get_apply _ _ _ q

/- All error cells are as before, and the answer says so. -/
theorem afterCode_surfaces
    {value : r.Value}
    (hHandle : bench.resolve t h = some (b, i))
    (hState : (bench.slot b i).stateOf .motor = .ok state)
    (hDecode : r.decode raw = .ok value) :
    (bench.afterCode t h r raw).surfaces = bench.surfaces ∧
      (bench.step
        (.device t h (.motor (r.setCall raw)))).2.answer =
        .raw .unit (bench.surface t).errno := by
  rcases (MotorCall.tell (r.command value)).run_of_state
      (bench.env b) bench.clock hState with ⟨answer, hAnswered⟩
  rw [afterCode,
    stepDevice_of_answered hHandle
      (typed_setCall_of_decode hDecode) rfl hAnswered,
    r.form_setCall]
  exact ⟨rfl, rfl⟩

/- A code that stands for a value is taken by a motor in reach. -/
theorem takesCode_of_decode
    {value : r.Value}
    (hHandle : bench.resolve t h = some (b, i))
    (hState : (bench.slot b i).stateOf .motor = .ok state)
    (hDecode : r.decode raw = .ok value) :
    bench.TakesCode t h b i r raw := by
  have hSlot := afterCode_slot hHandle hState hDecode
  have hHeld := held_afterCode hHandle hState hDecode
  have hRuns := runs_of_callOn? (callOn?_setCall hHandle hDecode)
  rcases afterCode_surfaces hHandle hState hDecode with
    ⟨hSurfaces, hAnswer⟩
  constructor
  case answer => exact hAnswer
  case code =>
    have hAfter := stateOf_afterCode hHandle hState hDecode
    rw [settingAnswer_of_state (afterCode_resolve hHandle) hAfter,
      hHeld, r.told?_command, Option.getD_some,
      MotorSetting.code_of_decode hDecode, surface, hSurfaces]
    rfl
  case readings =>
    have hUpdate :=
      Slot.update_of_state (k := .motor) bench.clock
        ((r.command value).apply bench.owners) hState
    rw [hRuns.readings]
    simp only [SlotCall.run, MotorCall.run, MotorCommand.run,
      Reply.mapError_readings, Reply.map_readings,
      Reply.report_readings]
    exact congrArg Reply.readings hUpdate
  case surfaces => exact hSurfaces
  case timestamp => rw [hSlot]
  case registers =>
    intro q hOther
    rw [hHeld, MotorSetting.told?_command_of_ne hOther]
    rfl
  case present => rw [hSlot]
  case deviceType => rw [hSlot]
  case others => exact hRuns.others

/- A code that stands for nothing is refused by a motor in reach. -/
theorem refusesCode_of_decode
    {e : UnknownVariant}
    (hHandle : bench.resolve t h = some (b, i))
    (hState : (bench.slot b i).stateOf .motor = .ok state)
    (hDecode : r.decode raw = .error e) :
    bench.RefusesCode t h r raw := by
  have hGuard : (bench.slot b i).validate .motor = .ok () :=
    ((bench.slot b i).validate_eq_ok_iff .motor).mpr
      (Slot.connectedType_of_state hState)
  have hTyped : (r.setCall raw).typed = .error e := by
    rw [r.typed_setCall, hDecode]
    rfl
  have hStep := stepDevice_of_undecoded hHandle hTyped hGuard
  have hAfter :
      bench.afterCode t h r raw =
        bench.setErrno t .invalidArgument :=
    congrArg Prod.fst hStep
  have hKept :
      ((bench.afterCode t h r raw).slot b i).stateOf .motor =
        .ok state := by
    rw [hAfter]
    exact hState
  constructor
  case answer => rw [hStep]
  case errno =>
    rw [hAfter]
    simp [surface, setErrno]
  case readings => rw [hStep]
  case bays =>
    rw [hAfter]
    rfl
  case code =>
    rw [settingAnswer_of_state (afterCode_resolve hHandle) hKept,
      settingAnswer_of_state hHandle hState, hAfter]
    rfl

/- A code is taken or refused, and not both. -/
theorem TakesCode.not_refuses
    (hTakes : bench.TakesCode t h b i r raw) :
    ¬ bench.RefusesCode t h r raw := by
  intro hRefuses
  -- Cells, stamps and codes may all be the same by chance.
  have hReadings := hTakes.readings
  rw [hRefuses.readings] at hReadings
  cases hReadings

/-
  On every bench that a run leads to, a motor in reach takes
  exactly the codes that values of the setting have and refuses
  all others. Every code is one of a control mode, and the
  other settings have the codes zero, one and two. What is
  answered for a setting is always a code that it takes.
-/
theorem raw_settings_read_back
    (hReach : bench.Reachable)
    (hHandle : bench.resolve t h = some (b, i))
    (hType : (bench.slot b i).connectedType = some .motor)
    (r : MotorSetting) :
    (∀ raw,
      bench.TakesCode t h b i r raw ↔
        ∃ value : r.Value, r.code value = raw) ∧
    (∀ raw,
      bench.RefusesCode t h r raw ↔
        ¬ ∃ value : r.Value, r.code value = raw) ∧
    (∀ raw,
      (∃ value : r.Value, r.code value = raw) ↔
        r = .controlMode ∨ raw = 0 ∨ raw = 1 ∨ raw = 2) ∧
    (r = .controlMode → ∀ raw, bench.TakesCode t h b i r raw) ∧
    ∃ raw : UInt8,
      bench.settingAnswer t h r =
        .raw (.nat raw.toNat) (bench.surface t).errno ∧
      bench.TakesCode t h b i r raw := by
  rcases (hReach.coherent b i).stateOf (k := .motor) hType with
    ⟨state, hState⟩
  have hTakes {raw : UInt8} (hCode : ∃ value, r.code value = raw) :
      bench.TakesCode t h b i r raw := by
    rcases (r.exists_decode_iff raw).mpr hCode with ⟨value, hDecode⟩
    exact takesCode_of_decode hHandle hState hDecode
  have hRefuses {raw : UInt8}
      (hNone : ¬ ∃ value, r.code value = raw) :
      bench.RefusesCode t h r raw := by
    cases hDecode : r.decode raw with
    | ok value =>
        exact absurd ⟨value, MotorSetting.code_of_decode hDecode⟩
          hNone
    | error e => exact refusesCode_of_decode hHandle hState hDecode
  refine ⟨?_, ?_, r.exists_code_iff, ?_, ?_⟩
  · intro raw
    constructor
    · intro hTaken
      by_contra hNone
      exact hTaken.not_refuses (hRefuses hNone)
    · exact hTakes
  · intro raw
    constructor
    · intro hRefused hCode
      exact (hTakes hCode).not_refuses hRefused
    · exact hRefuses
  · rintro rfl raw
    exact hTakes ⟨.ofCode raw, ControlMode.code_ofCode raw⟩
  · exact ⟨_, settingAnswer_of_state hHandle hState r,
      hTakes ⟨_, rfl⟩⟩

end Codes

/- A motor that is behind a handle of the first slot of a bay. -/
def geared
    (b : Fin n) : List (Step n m) :=
  [.slot b 0 (.presence (.plugIn .motor)),
    .slot b 0 (.motor (.tell (.setGearset .blue)))]

/- Gears have three codes, and a fourth is refused. -/
theorem raw_settings_read_back_geared :
    let bench : Bench 1 1 :=
      ((fresh (.manual ⟨7⟩) (Vector.replicate 1 {}) #v[0]).run
        (geared 0)).1
    bench.resolve 0 (.own 0) = some (0, ⟨0, by decide⟩) ∧
    (bench.slot 0 ⟨0, by decide⟩).connectedType = some .motor ∧
    bench.TakesCode 0 (.own 0) 0 ⟨0, by decide⟩ .gearset 1 ∧
    bench.RefusesCode 0 (.own 0) .gearset 3 := by
  intro bench
  have hReach : bench.Reachable :=
    (Reachable.fresh _ _ _).run (geared 0)
  have hHandle :
      bench.resolve 0 (.own 0) = some (0, ⟨0, by decide⟩) := by
    decide +kernel
  have hType :
      (bench.slot 0 ⟨0, by decide⟩).connectedType =
        some .motor := by
    decide +kernel
  have hCodes :=
    raw_settings_read_back hReach hHandle hType .gearset
  refine ⟨hHandle, hType, ?_, ?_⟩
  · exact (hCodes.1 1).mpr ⟨Gearset.green, rfl⟩
  · apply (hCodes.2.1 3).mpr
    rintro ⟨gears, hCode⟩
    cases gears <;> cases hCode

------------------------------------------------------------
-- Codes of failures
------------------------------------------------------------

section Failures

variable {past : List (Moment n m)} {bench : Bench n m}

theorem rawValue?_eq_failureByte_iff
    (raw : UInt8)
    (errno : Errno) :
    (Answer.raw (.nat raw.toNat) errno).rawValue? =
        some (.nat failureByte.toNat) ↔
      raw = failureByte := by
  constructor
  · intro hValue
    injection hValue with hValue
    injection hValue with hNat
    exact UInt8.toNat_inj.mp hNat
  · intro hRaw
    rw [hRaw]
    rfl

/-
  After any run a surface answers the code of a failure for a
  setting if and only if the guard refused, or the setting is
  the control mode and the last one that was written, since a
  device was last put into the slot, is the one that has this
  code for want of a name.
-/
theorem setting_codes_tell_the_guard
    {t : Fin m}
    {h : Handle n}
    {b : Fin n}
    {i : SlotIndex}
    (hPast : History past bench)
    (hHandle : bench.resolve t h = some (b, i))
    (r : MotorSetting) :
    (bench.settingAnswer t h r).rawValue? =
        some (.nat failureByte.toNat) ↔
      (∃ e, (bench.slot b i).validate .motor = .error e) ∨
        (r = .controlMode ∧
          lastWrite? (Moment.writes? b i .controlMode)
              (since (Moment.installs b i) past) =
            some (.unknown failureByte)) := by
  cases hGuard : (bench.slot b i).validate .motor with
  | error e =>
      exact iff_of_true (settingAnswer_of_refused hHandle hGuard r)
        (Or.inl ⟨e, rfl⟩)
  | ok passed =>
      have hType :=
        ((bench.slot b i).validate_eq_ok_iff .motor).mp hGuard
      rcases (hPast.coherent b i).stateOf (k := .motor) hType with
        ⟨state, hState⟩
      have hNoError :
          ¬ ∃ e : SlotError, Except.ok passed = .error e :=
        nofun
      rw [settingAnswer_of_state hHandle hState,
        or_iff_right hNoError, rawValue?_eq_failureByte_iff]
      by_cases hMode : r = .controlMode
      · subst hMode
        have hHeld := hPast.held_eq_last_write b i .controlMode
        rw [MotorSetting.code, hHeld,
          ControlMode.code_eq_failureByte_iff, and_iff_right rfl]
        cases lastWrite? (Moment.writes? b i .controlMode)
            (since (Moment.installs b i) past) with
        | none => exact iff_of_false nofun nofun
        | some mode => exact Option.some_inj.symm
      · exact iff_of_false (MotorSetting.code_ne_failureByte hMode _)
          (fun hBoth => hMode hBoth.1)

end Failures

/- A motor whose control mode is given the code of a failure. -/
def unnamedMode
    (t : Fin m)
    (b : Fin n) : List (Step n m) :=
  [.slot b 0 (.presence (.plugIn .motor)),
    .device t (.own 0) (.motor (.modeSet 255))]

/- Only the control mode looks like a failure then. -/
theorem setting_codes_tell_the_guard_unnamed :
    let start : Bench 1 1 :=
      fresh (.manual ⟨7⟩) (Vector.replicate 1 {}) #v[0]
    let bench := (start.run (unnamedMode 0 0)).1
    bench.resolve 0 (.own 0) = some (0, ⟨0, by decide⟩) ∧
    (bench.settingAnswer 0 (.own 0) .controlMode).rawValue? =
      some (.nat failureByte.toNat) ∧
    (bench.settingAnswer 0 (.own 0) .brakeMode).rawValue? ≠
      some (.nat failureByte.toNat) := by
  intro start bench
  have hPast : History (start.moments (unnamedMode 0 0)) bench :=
    (History.fresh _ _ _).run (unnamedMode 0 0)
  have hHandle :
      bench.resolve 0 (.own 0) = some (0, ⟨0, by decide⟩) := by
    decide +kernel
  have hMode :
      lastWrite? (Moment.writes? 0 ⟨0, by decide⟩ .controlMode)
        (since (Moment.installs 0 ⟨0, by decide⟩)
          (start.moments (unnamedMode 0 0))) =
        some (ControlMode.unknown failureByte) := by
    decide +kernel
  have hGuard :
      (bench.slot 0 ⟨0, by decide⟩).validate .motor = .ok () := by
    decide +kernel
  refine ⟨hHandle, ?_, ?_⟩
  · exact
      (setting_codes_tell_the_guard hPast hHandle .controlMode).mpr
        (Or.inr ⟨rfl, hMode⟩)
  · intro hFailure
    rcases (setting_codes_tell_the_guard hPast hHandle
        .brakeMode).mp hFailure with ⟨e, hRefused⟩ | ⟨hOther, _⟩
    · rw [hGuard] at hRefused
      cases hRefused
    · cases hOther

/- The guard passes, and yet the code is that of a failure. -/
theorem mode_code_is_ambiguous :
    let bench : Bench 1 1 :=
      ((fresh (.manual ⟨7⟩) (Vector.replicate 1 {}) #v[0]).run
        (unnamedMode 0 0)).1
    bench.Reachable ∧
    bench.resolve 0 (.own 0) = some (0, ⟨0, by decide⟩) ∧
    ¬ ((bench.settingAnswer 0 (.own 0) .controlMode).rawValue? =
          some (.nat failureByte.toNat) ↔
        ∃ e,
          (bench.slot 0 ⟨0, by decide⟩).validate .motor =
            .error e) := by
  intro bench
  have hReach : bench.Reachable :=
    (Reachable.fresh _ _ _).run (unnamedMode 0 0)
  have hHandle :
      bench.resolve 0 (.own 0) = some (0, ⟨0, by decide⟩) := by
    decide +kernel
  have hType :
      (bench.slot 0 ⟨0, by decide⟩).connectedType =
        some .motor := by
    decide +kernel
  have hHeld :
      MotorRegister.held (bench.slot 0 ⟨0, by decide⟩)
          .controlMode =
        ControlMode.unknown failureByte := by
    decide +kernel
  rcases (hReach.coherent 0 ⟨0, by decide⟩).stateOf (k := .motor)
      hType with ⟨state, hState⟩
  refine ⟨hReach, hHandle, ?_⟩
  intro hClaim
  have hFailure :
      (bench.settingAnswer 0 (.own 0) .controlMode).rawValue? =
        some (.nat failureByte.toNat) := by
    rw [settingAnswer_of_state hHandle hState,
      rawValue?_eq_failureByte_iff]
    exact congrArg ControlMode.code hHeld
  rcases hClaim.mp hFailure with ⟨e, hRefused⟩
  rw [(Slot.validate_eq_ok_iff _ .motor).mpr hType] at hRefused
  cases hRefused

end Bench

end DeviceBay
