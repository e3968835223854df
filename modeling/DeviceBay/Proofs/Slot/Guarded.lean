import DeviceBay.Proofs.Slot.Coherence

/-
  This file says which operations on a slot are guarded and by
  which type of device, and proves that the guard decides about
  each of them: if it refuses, the operation fails with its
  error and leaves the slot alone, and if it passes, the
  operation succeeds.

  Key definitions include:
    * `Reply.Refused`
    * `SlotCall.guard?`
    * `SlotCall.wrap`
    * `Failure.slotError?`

  Main declarations:
    * `SlotCall.run_of_refused`
    * `SlotCall.run_of_admitted`
    * `SlotCall.validate_of_failed`
-/

namespace DeviceBay

------------------------------------------------------------
-- Refused and successful replies
------------------------------------------------------------

namespace Reply

variable {ε δ α β : Type}

/-
  The reply of an operation that failed without a trace: the
  slot is as before and nothing was reported.
-/
structure Refused
    (slot : Slot)
    (e : ε)
    (reply : Reply ε α) : Prop where
  result : reply.result = .error e
  slot_eq : reply.slot = slot
  events : reply.events = []

/- The reply of an operation that gave an answer. -/
def Succeeds
    (reply : Reply ε α) : Prop :=
  ∃ value, reply.result = .ok value

theorem refused_still
    (slot : Slot)
    (clock : Clock)
    (e : ε) :
    (still slot clock (.error e : Except ε α)).Refused slot e :=
  ⟨rfl, rfl, rfl⟩

theorem Refused.map
    {slot : Slot}
    {e : ε}
    {reply : Reply ε α}
    (f : α → β)
    (hRefused : reply.Refused slot e) :
    (reply.map f).Refused slot e := by
  refine ⟨?_, hRefused.slot_eq, hRefused.events⟩
  rw [map_result, hRefused.result]
  rfl

theorem Refused.mapError
    {slot : Slot}
    {e : ε}
    {reply : Reply ε α}
    (f : ε → δ)
    (hRefused : reply.Refused slot e) :
    (reply.mapError f).Refused slot (f e) := by
  refine ⟨?_, hRefused.slot_eq, hRefused.events⟩
  rw [mapError_result, hRefused.result]
  rfl

theorem Refused.report
    {slot : Slot}
    {e : ε}
    {reply : Reply ε α}
    (events : α → List Event)
    (hRefused : reply.Refused slot e) :
    (reply.report events).Refused slot e := by
  rw [report_of_error events hRefused.result]
  exact hRefused

theorem Succeeds.map
    {reply : Reply ε α}
    (f : α → β)
    (hReply : reply.Succeeds) :
    (reply.map f).Succeeds := by
  rcases hReply with ⟨value, hValue⟩
  refine ⟨f value, ?_⟩
  rw [map_result, hValue]
  rfl

theorem Succeeds.mapError
    {reply : Reply ε α}
    (f : ε → δ)
    (hReply : reply.Succeeds) :
    (reply.mapError f).Succeeds := by
  rcases hReply with ⟨value, hValue⟩
  refine ⟨value, ?_⟩
  rw [mapError_result, hValue]
  rfl

theorem Succeeds.report
    {reply : Reply ε α}
    (events : α → List Event)
    (hReply : reply.Succeeds) :
    (reply.report events).Succeeds := by
  rcases hReply with ⟨value, hValue⟩
  exact ⟨value, (report_result events reply).trans hValue⟩

end Reply

namespace Slot

theorem update_refused
    {slot : Slot}
    {k : Kind}
    {e : SlotError}
    (clock : Clock)
    (edit : k.State → k.State)
    (hRefused : slot.validate k.deviceType = .error e) :
    (slot.update clock k edit).Refused slot e := by
  rw [update_of_refused clock edit hRefused]
  exact Reply.refused_still slot clock e

theorem update_succeeds
    {slot : Slot}
    {k : Kind}
    {before : k.State}
    (clock : Clock)
    (edit : k.State → k.State)
    (hState : slot.stateOf k = .ok before) :
    (slot.update clock k edit).Succeeds := by
  rw [update_of_state clock edit hState]
  exact ⟨before, rfl⟩

end Slot

------------------------------------------------------------
-- Motor
------------------------------------------------------------

theorem MotorCall.run_of_refused
    {slot : Slot}
    {e : SlotError}
    (env : Env)
    (clock : Clock)
    (c : MotorCall)
    (hRefused : slot.validate .motor = .error e) :
    (c.run env clock slot).Refused slot e := by
  cases c with
  | ask q =>
      simp only [MotorCall.run, MotorQuery.ask,
        Slot.look_of_refused (k := .motor) _ hRefused]
      exact Reply.refused_still slot clock e
  | tell c =>
      have hUpdate :=
        Slot.update_refused (k := .motor) clock
          (c.apply env.owners) hRefused
      exact (hUpdate.report _).map _ |>.map _
  | ignored c =>
      simp only [MotorCall.run, MotorIgnored.run, hRefused]
      exact ((Reply.refused_still slot clock e).report _).map _

theorem MotorCall.run_of_state
    {slot : Slot}
    {m : Motor}
    (env : Env)
    (clock : Clock)
    (c : MotorCall)
    (hState : slot.stateOf .motor = .ok m) :
    (c.run env clock slot).Succeeds := by
  cases c with
  | ask q =>
      simp only [MotorCall.run, MotorQuery.ask,
        Slot.look_of_state _ hState]
      exact ⟨_, rfl⟩
  | tell c =>
      have hUpdate :=
        Slot.update_succeeds clock (c.apply env.owners) hState
      exact (hUpdate.report _).map _ |>.map _
  | ignored c =>
      have hType := Slot.connectedType_of_state hState
      have hGuard := (slot.validate_eq_ok_iff .motor).mpr hType
      simp only [MotorCall.run, MotorIgnored.run, hGuard]
      exact ⟨_, rfl⟩

------------------------------------------------------------
-- Inertial sensor
------------------------------------------------------------

theorem Imu.status_of_refused
    {slot : Slot}
    {e : SlotError}
    (config : Config)
    (clock : Clock)
    (hRefused : slot.validate .imu = .error e) :
    (Imu.status config clock slot).Refused slot e := by
  simp only [Imu.status,
    Slot.look_of_refused (k := .imu) _ hRefused]
  exact ⟨rfl, rfl, rfl⟩

theorem Imu.status_of_state
    {slot : Slot}
    {s : Imu}
    (config : Config)
    (clock : Clock)
    (hState : slot.stateOf .imu = .ok s) :
    (Imu.status config clock slot).Succeeds := by
  simp only [Imu.status, Slot.look_of_state _ hState]
  cases s.resetAt with
  | none => exact ⟨_, rfl⟩
  | some start =>
      dsimp only
      split
      · exact ⟨_, rfl⟩
      · have hUpdate :=
          Slot.update_succeeds (k := .imu) clock.read.2
            (fun s => (recheck config clock.read.1 s).1) hState
        exact ((hUpdate.map _).report _).map _

theorem ImuCall.run_of_refused
    {slot : Slot}
    {e : SlotError}
    (env : Env)
    (clock : Clock)
    (c : ImuCall)
    (hRefused : slot.validate .imu = .error e) :
    (c.run env clock slot).Refused slot e := by
  cases c with
  | ask q =>
      simp only [ImuCall.run, ImuQuery.ask,
        Slot.look_of_refused (k := .imu) _ hRefused]
      exact Reply.refused_still slot clock e
  | quaternion =>
      simp only [ImuCall.run, Imu.quaternion, hRefused]
      exact Reply.refused_still slot clock e
  | mode =>
      simp only [ImuCall.run, Imu.mode, hRefused]
      exact Reply.refused_still slot clock e
  | reset =>
      have hUpdate :=
        Slot.update_refused (k := .imu) clock.read.2
          (fun s => { s with resetAt := some clock.read.1 })
          hRefused
      have hReported :=
        hUpdate.report
          (fun _ =>
            [.calibrationStarted slot.index clock.read.1])
      exact ⟨(hReported.map _ |>.map _).result,
        hReported.slot_eq, hReported.events⟩
  | status => exact (Imu.status_of_refused _ clock hRefused).map _
  | isCalibrating =>
      exact ((Imu.status_of_refused _ clock hRefused).map _).map _
  | ignored c =>
      simp only [ImuCall.run, ImuIgnored.run, hRefused]
      exact ((Reply.refused_still slot clock e).report _).map _

theorem ImuCall.run_of_state
    {slot : Slot}
    {s : Imu}
    (env : Env)
    (clock : Clock)
    (c : ImuCall)
    (hState : slot.stateOf .imu = .ok s) :
    (c.run env clock slot).Succeeds := by
  have hType := Slot.connectedType_of_state hState
  have hGuard := (slot.validate_eq_ok_iff .imu).mpr hType
  cases c with
  | ask q =>
      simp only [ImuCall.run, ImuQuery.ask,
        Slot.look_of_state _ hState]
      exact ⟨_, rfl⟩
  | quaternion =>
      simp only [ImuCall.run, Imu.quaternion, hGuard]
      exact ⟨_, rfl⟩
  | mode =>
      simp only [ImuCall.run, Imu.mode, hGuard]
      exact ⟨_, rfl⟩
  | reset =>
      have hUpdate :=
        Slot.update_succeeds (k := .imu) clock.read.2
          (fun s => { s with resetAt := some clock.read.1 })
          hState
      have hReported :=
        hUpdate.report
          (fun _ =>
            [.calibrationStarted slot.index clock.read.1])
      exact hReported.map _ |>.map _
  | status => exact (Imu.status_of_state _ clock hState).map _
  | isCalibrating =>
      exact ((Imu.status_of_state _ clock hState).map _).map _
  | ignored c =>
      simp only [ImuCall.run, ImuIgnored.run, hGuard]
      exact ⟨_, rfl⟩

------------------------------------------------------------
-- Other sensors
------------------------------------------------------------

/- The kind of device that a sensor call is for. -/
def SensorCall.kind : SensorCall → Kind
  | .rotationPosition => .rotation
  | .setRotationPosition _ => .rotation
  | .resetRotationPosition => .rotation
  | .distance => .distance
  | .optical _ => .optical
  | .gps _ => .gps
  | .setGpsOffset _ => .gps

theorem SensorCall.run_of_refused
    {slot : Slot}
    {c : SensorCall}
    {e : SlotError}
    (clock : Clock)
    (hRefused : slot.validate c.kind.deviceType = .error e) :
    (c.run clock slot).Refused slot e := by
  cases c with
  | rotationPosition =>
      simp only [SensorCall.run, Rotation.ask,
        Slot.look_of_refused (k := .rotation) _ hRefused]
      exact Reply.refused_still slot clock e
  | setRotationPosition position =>
      exact ((Slot.update_refused (k := .rotation) clock _
        hRefused).map _).map _
  | resetRotationPosition =>
      exact ((Slot.update_refused (k := .rotation) clock _
        hRefused).map _).map _
  | distance =>
      simp only [SensorCall.run, Distance.ask,
        Slot.look_of_refused (k := .distance) _ hRefused]
      exact Reply.refused_still slot clock e
  | optical q =>
      simp only [SensorCall.run, OpticalQuery.ask,
        Slot.look_of_refused (k := .optical) _ hRefused]
      exact Reply.refused_still slot clock e
  | gps q =>
      simp only [SensorCall.run, GpsQuery.ask,
        Slot.look_of_refused (k := .gps) _ hRefused]
      exact Reply.refused_still slot clock e
  | setGpsOffset offset =>
      exact ((Slot.update_refused (k := .gps) clock _
        hRefused).map _).map _

theorem SensorCall.run_of_state
    {slot : Slot}
    {c : SensorCall}
    {state : c.kind.State}
    (clock : Clock)
    (hState : slot.stateOf c.kind = .ok state) :
    (c.run clock slot).Succeeds := by
  cases c with
  | rotationPosition =>
      simp only [SensorCall.run, Rotation.ask,
        Slot.look_of_state (k := .rotation) _ hState]
      exact ⟨_, rfl⟩
  | setRotationPosition position =>
      exact ((Slot.update_succeeds (k := .rotation) clock _
        hState).map _).map _
  | resetRotationPosition =>
      exact ((Slot.update_succeeds (k := .rotation) clock _
        hState).map _).map _
  | distance =>
      simp only [SensorCall.run, Distance.ask,
        Slot.look_of_state (k := .distance) _ hState]
      exact ⟨_, rfl⟩
  | optical q =>
      simp only [SensorCall.run, OpticalQuery.ask,
        Slot.look_of_state (k := .optical) _ hState]
      exact ⟨_, rfl⟩
  | gps q =>
      simp only [SensorCall.run, GpsQuery.ask,
        Slot.look_of_state (k := .gps) _ hState]
      exact ⟨_, rfl⟩
  | setGpsOffset offset =>
      exact ((Slot.update_succeeds (k := .gps) clock _
        hState).map _).map _

------------------------------------------------------------
-- Lines of an expander
------------------------------------------------------------

/- The line that a call is about. -/
def LineCall.line : LineCall → Nat
  | .mode line => line
  | .setMode line _ => line

theorem LineCall.run_of_refused
    {slot : Slot}
    {c : LineCall}
    {e : SlotError}
    (clock : Clock)
    (hLine : c.line < lineCount)
    (hRefused : slot.validate .adi = .error e) :
    (c.run clock slot).Refused slot (LineError.slot e) := by
  cases c with
  | mode line =>
      simp only [LineCall.line] at hLine
      simp only [LineCall.run, Expander.lineMode, dif_pos hLine,
        Slot.look_of_refused (k := .expander) _ hRefused]
      exact Reply.refused_still slot clock (LineError.slot e)
  | setMode line use =>
      simp only [LineCall.line] at hLine
      simp only [LineCall.run, Expander.setLineMode, dif_pos hLine]
      exact ((Slot.update_refused (k := .expander) clock _
        hRefused).map _ |>.mapError _).map _

theorem LineCall.run_of_state
    {slot : Slot}
    {c : LineCall}
    {s : Expander}
    (clock : Clock)
    (hLine : c.line < lineCount)
    (hState : slot.stateOf .expander = .ok s) :
    (c.run clock slot).Succeeds := by
  cases c with
  | mode line =>
      simp only [LineCall.line] at hLine
      simp only [LineCall.run, Expander.lineMode, dif_pos hLine,
        Slot.look_of_state (k := .expander) _ hState]
      exact ⟨_, rfl⟩
  | setMode line use =>
      simp only [LineCall.line] at hLine
      simp only [LineCall.run, Expander.setLineMode, dif_pos hLine]
      exact ((Slot.update_succeeds (k := .expander) clock _
        hState).map _ |>.mapError _).map _

/- A line that the expander lacks is refused before the guard. -/
theorem LineCall.run_of_out_of_range
    (clock : Clock)
    (slot : Slot)
    {c : LineCall}
    (hLine : ¬ c.line < lineCount) :
    (c.run clock slot).Refused slot
      (LineError.outOfRange c.line) := by
  cases c with
  | mode line =>
      simp only [LineCall.line] at hLine
      simp only [LineCall.run, Expander.lineMode, dif_neg hLine]
      exact Reply.refused_still slot clock
        (LineError.outOfRange line)
  | setMode line use =>
      simp only [LineCall.line] at hLine
      simp only [LineCall.run, Expander.setLineMode, dif_neg hLine]
      exact (Reply.refused_still slot clock
        (LineError.outOfRange line)).map _

------------------------------------------------------------
-- Questions to drivers
------------------------------------------------------------

/- Whether a question to a driver passes the guard first. -/
def DriverCheck.guarded : DriverCheck → Bool
  | .timestamp => true
  | .validate => true
  | _ => false

theorem DriverCheck.ask_of_refused
    {slot : Slot}
    {expected : DeviceType}
    {q : DriverCheck}
    {e : SlotError}
    (hGuarded : q.guarded = true)
    (hRefused : slot.validate expected = .error e) :
    q.ask expected slot = .error e := by
  cases q with
  | slotIndex => cases hGuarded
  | deviceType => cases hGuarded
  | isConnected => cases hGuarded
  | timestamp => simp only [ask, Slot.stampOf, hRefused]
  | validate => exact hRefused

theorem DriverCheck.ask_of_passed
    {slot : Slot}
    {expected : DeviceType}
    (q : DriverCheck)
    (hPassed : slot.validate expected = .ok ()) :
    ∃ a, q.ask expected slot = .ok a := by
  cases q with
  | slotIndex => exact ⟨_, rfl⟩
  | deviceType => exact ⟨_, rfl⟩
  | isConnected => exact ⟨_, rfl⟩
  | timestamp =>
      refine ⟨slot.timestamp, ?_⟩
      simp only [ask, Slot.stampOf, hPassed]
  | validate => exact ⟨(), hPassed⟩

theorem DriverCheck.ask_of_unguarded
    (slot : Slot)
    (expected : DeviceType)
    {q : DriverCheck}
    (hUnguarded : q.guarded = false) :
    ∃ a, q.ask expected slot = .ok a := by
  cases q with
  | slotIndex => exact ⟨_, rfl⟩
  | deviceType => exact ⟨_, rfl⟩
  | isConnected => exact ⟨_, rfl⟩
  | timestamp => cases hUnguarded
  | validate => cases hUnguarded

------------------------------------------------------------
-- All operations
------------------------------------------------------------

/- The failure of a slot that a failure wraps, if it does. -/
def Failure.slotError? : Failure → Option SlotError
  | .slot e => some e
  | .line e => e.source?
  | .transfer _ => none

namespace SlotCall

/-
  The type of device that an operation demands to find. The
  operations without one succeed on every slot or fail for
  reasons of their own.
-/
def guard? : SlotCall → Option DeviceType
  | .validate expected => some expected
  | .peek k => some k.deviceType
  | .publish k _ _ => some k.deviceType
  | .check expected q => if q.guarded then some expected else none
  | .motor _ => some .motor
  | .imu _ => some .imu
  | .sensor c => some c.kind.deviceType
  | .line c => if c.line < lineCount then some .adi else none
  | .link _ _ (.check q) => if q.guarded then some .radio else none
  | _ => none

/- How an operation gives a refusal of the guard. -/
def wrap : SlotCall → SlotError → Failure
  | .line _, e => .line (.slot e)
  | _, e => .slot e

theorem slotError?_wrap
    (c : SlotCall)
    (e : SlotError) :
    (c.wrap e).slotError? = some e := by
  cases c <;> rfl

/- What the guard refuses fails, and nothing else happens. -/
theorem run_of_refused
    {slot : Slot}
    {c : SlotCall}
    {t : DeviceType}
    {e : SlotError}
    (env : Env)
    (clock : Clock)
    (hGuard : c.guard? = some t)
    (hRefused : slot.validate t = .error e) :
    (c.run env clock slot).result = .error (c.wrap e) ∧
      (c.run env clock slot).slot = slot := by
  cases c with
  | presence c => cases hGuard
  | handle c => cases hGuard
  | validate expected =>
      cases hGuard
      simp only [run, hRefused]
      exact ⟨rfl, rfl⟩
  | peek k =>
      cases hGuard
      simp only [run, Slot.look_of_refused _ hRefused]
      exact ⟨rfl, rfl⟩
  | publish k edit meanwhile =>
      cases hGuard
      simp only [run,
        Slot.publish_of_refused clock edit meanwhile hRefused]
      exact ⟨rfl, rfl⟩
  | check expected q =>
      simp only [guard?, Option.ite_none_right_eq_some] at hGuard
      rcases hGuard with ⟨hGuarded, hExpected⟩
      cases hExpected
      simp only [run, DriverCheck.ask_of_refused hGuarded hRefused]
      exact ⟨rfl, rfl⟩
  | motor c =>
      cases hGuard
      have hReply := (c.run_of_refused env clock hRefused).mapError
        Failure.slot
      exact ⟨hReply.result, hReply.slot_eq⟩
  | imu c =>
      cases hGuard
      have hReply := (c.run_of_refused env clock hRefused).mapError
        Failure.slot
      exact ⟨hReply.result, hReply.slot_eq⟩
  | sensor c =>
      cases hGuard
      have hReply := (SensorCall.run_of_refused clock hRefused).mapError
        Failure.slot
      exact ⟨hReply.result, hReply.slot_eq⟩
  | line c =>
      simp only [guard?, Option.ite_none_right_eq_some] at hGuard
      rcases hGuard with ⟨hLine, hExpected⟩
      cases hExpected
      have hReply :=
        (LineCall.run_of_refused clock hLine hRefused).mapError
          Failure.line
      exact ⟨hReply.result, hReply.slot_eq⟩
  | link id role c =>
      cases c with
      | radio c => cases hGuard
      | check q =>
          simp only [guard?, Option.ite_none_right_eq_some]
            at hGuard
          rcases hGuard with ⟨hGuarded, hExpected⟩
          cases hExpected
          refine ⟨?_, rfl⟩
          simp only [run, LinkCall.result,
            DriverCheck.ask_of_refused hGuarded hRefused]
          rfl

/- What the guard passes gives an answer. -/
theorem run_of_admitted
    {i : SlotIndex}
    {slot : Slot}
    {c : SlotCall}
    {t : DeviceType}
    (env : Env)
    (clock : Clock)
    (hSlot : slot.Coherent i)
    (hGuard : c.guard? = some t)
    (hType : slot.connectedType = some t) :
    (c.run env clock slot).Succeeds := by
  have hPassed := (slot.validate_eq_ok_iff t).mpr hType
  cases c with
  | presence c => cases hGuard
  | handle c => cases hGuard
  | validate expected =>
      cases hGuard
      simp only [run, hPassed]
      exact ⟨_, rfl⟩
  | peek k =>
      cases hGuard
      rcases hSlot.stateOf hType with ⟨state, hState⟩
      simp only [run, Slot.look_of_state _ hState]
      exact ⟨_, rfl⟩
  | publish k edit meanwhile =>
      cases hGuard
      rcases hSlot.stateOf hType with ⟨before, hState⟩
      have hPublish :
          (slot.publish clock k edit meanwhile).Succeeds := by
        refine ⟨(), ?_⟩
        rw [Slot.publish_result,
          Slot.update_of_state clock edit hState]
        rfl
      exact (hPublish.map _).mapError _
  | check expected q =>
      simp only [guard?, Option.ite_none_right_eq_some] at hGuard
      rcases hGuard with ⟨hGuarded, hExpected⟩
      cases hExpected
      rcases q.ask_of_passed hPassed with ⟨a, hAnswer⟩
      simp only [run, hAnswer]
      exact ⟨_, rfl⟩
  | motor c =>
      cases hGuard
      rcases hSlot.stateOf (k := .motor) hType with ⟨m, hState⟩
      exact (c.run_of_state env clock hState).mapError _
  | imu c =>
      cases hGuard
      rcases hSlot.stateOf (k := .imu) hType with ⟨s, hState⟩
      exact (c.run_of_state env clock hState).mapError _
  | sensor c =>
      cases hGuard
      rcases hSlot.stateOf hType with ⟨state, hState⟩
      exact (SensorCall.run_of_state clock hState).mapError _
  | line c =>
      simp only [guard?, Option.ite_none_right_eq_some] at hGuard
      rcases hGuard with ⟨hLine, hExpected⟩
      cases hExpected
      rcases hSlot.stateOf (k := .expander) hType with ⟨s, hState⟩
      exact (LineCall.run_of_state clock hLine hState).mapError _
  | link id role c =>
      cases c with
      | radio c => cases hGuard
      | check q =>
          simp only [guard?, Option.ite_none_right_eq_some]
            at hGuard
          rcases hGuard with ⟨hGuarded, hExpected⟩
          cases hExpected
          rcases q.ask_of_passed hPassed with ⟨a, hAnswer⟩
          refine ⟨q.value a, ?_⟩
          simp only [run, LinkCall.result, hAnswer]
          rfl

/- What demands no device never fails because of the slot. -/
theorem slotError?_of_unguarded
    {slot : Slot}
    {c : SlotCall}
    {f : Failure}
    (env : Env)
    (clock : Clock)
    (hGuard : c.guard? = none)
    (hFailed : (c.run env clock slot).result = .error f) :
    f.slotError? = none := by
  cases c with
  | presence c => cases hFailed
  | handle c => cases hFailed
  | validate expected => cases hGuard
  | peek k => cases hGuard
  | publish k edit meanwhile => cases hGuard
  | check expected q =>
      have hUnguarded : q.guarded = false := by
        simpa [guard?] using hGuard
      rcases DriverCheck.ask_of_unguarded slot expected hUnguarded
        with ⟨a, hAnswer⟩
      simp only [run, hAnswer] at hFailed
      cases hFailed
  | motor c => cases hGuard
  | imu c => cases hGuard
  | sensor c => cases hGuard
  | line c =>
      have hLine : ¬ c.line < lineCount := by
        simpa [guard?] using hGuard
      have hReply :=
        (LineCall.run_of_out_of_range clock slot hLine).mapError
          Failure.line
      have hError := hFailed.symm.trans hReply.result
      cases hError
      rfl
  | link id role c =>
      cases c with
      | radio c =>
          simp only [run, LinkCall.result] at hFailed
          cases hAnswer : c.answer with
          | ok a =>
              rw [hAnswer] at hFailed
              cases hFailed
          | error e =>
              rw [hAnswer] at hFailed
              cases hFailed
              rfl
      | check q =>
          have hUnguarded : q.guarded = false := by
            simpa [guard?] using hGuard
          rcases DriverCheck.ask_of_unguarded slot .radio hUnguarded
            with ⟨a, hAnswer⟩
          simp only [run, LinkCall.result, hAnswer] at hFailed
          cases hFailed

/- Every failure of a slot comes from a guard that refused. -/
theorem validate_of_failed
    {i : SlotIndex}
    {slot : Slot}
    {c : SlotCall}
    {f : Failure}
    {e : SlotError}
    (env : Env)
    (clock : Clock)
    (hSlot : slot.Coherent i)
    (hFailed : (c.run env clock slot).result = .error f)
    (hError : f.slotError? = some e) :
    ∃ t, slot.validate t = .error e := by
  cases hGuard : c.guard? with
  | none =>
      rw [slotError?_of_unguarded env clock hGuard hFailed]
        at hError
      cases hError
  | some t =>
      cases hValidate : slot.validate t with
      | ok passed =>
          have hType := (slot.validate_eq_ok_iff t).mp hValidate
          rcases run_of_admitted env clock hSlot hGuard hType
            with ⟨value, hValue⟩
          cases hFailed.symm.trans hValue
      | error refusal =>
          have hRefused :=
            (run_of_refused env clock hGuard hValidate).1
          cases hFailed.symm.trans hRefused
          rw [slotError?_wrap] at hError
          cases hError
          exact ⟨t, hValidate⟩

end SlotCall

end DeviceBay
