import DeviceBay.Proofs.Slot.Guarded
import DeviceBay.Proofs.Surface.Typed

/-
  This file says when a raw call on a device fails and what the
  failure leaves behind, and proves that a raw call touches the
  error cell and reports a refusal in exactly those cases.

  Key definitions include:
    * `Event.isRefusal`
    * `RawFailure`
    * `RawReply.Follows`
    * `DeviceCall.failure?`

  Main declarations:
    * `SlotCall.run_quiet`
    * `DeviceCall.validate_of_failure?`
    * `DeviceCall.run_follows`
-/

namespace DeviceBay

------------------------------------------------------------
-- Reports of drivers
------------------------------------------------------------

/- Whether an event says that a raw call failed. -/
def Event.isRefusal : Event → Bool
  | .guardFailed _ => true
  | .rawRejected _ => true
  | _ => false

/- Lists of events among which no refusal is. -/
def Quiet
    (events : List Event) : Prop :=
  events.filter Event.isRefusal = []

theorem quiet_nil : Quiet [] :=
  rfl

theorem quiet_map
    {α : Type}
    {f : α → Event}
    (xs : List α)
    (hQuiet : ∀ x, (f x).isRefusal = false) :
    Quiet (xs.map f) := by
  apply List.filter_eq_nil_iff.mpr
  intro e hMember
  rcases List.mem_map.mp hMember with ⟨x, _, rfl⟩
  simp [hQuiet x]

theorem Quiet.append
    {before after : List Event}
    (hBefore : Quiet before)
    (hAfter : Quiet after) :
    Quiet (before ++ after) := by
  unfold Quiet at *
  rw [List.filter_append, hBefore, hAfter]
  rfl

theorem Reply.report_quiet
    {ε α : Type}
    {events : α → List Event}
    {reply : Reply ε α}
    (hReply : Quiet reply.events)
    (hEvents : ∀ value, Quiet (events value)) :
    Quiet (reply.report events).events := by
  cases hResult : reply.result with
  | error e =>
      rw [report_of_error events hResult]
      exact hReply
  | ok value =>
      rw [report_events_of_ok events hResult]
      exact hReply.append (hEvents value)

theorem Slot.update_quiet
    (slot : Slot)
    (clock : Clock)
    (k : Kind)
    (edit : k.State → k.State) :
    Quiet (slot.update clock k edit).events := by
  rw [update_events]
  exact quiet_nil

theorem MotorCommand.modeEvents_quiet
    (slot : SlotIndex)
    (c : MotorCommand)
    (before : Motor) :
    Quiet (c.modeEvents slot before) := by
  unfold modeEvents
  split
  · exact quiet_nil
  · split
    · exact quiet_nil
    · rfl

theorem MotorCall.run_quiet
    (env : Env)
    (clock : Clock)
    (slot : Slot)
    (c : MotorCall) :
    Quiet (c.run env clock slot).events := by
  cases c with
  | ask q => exact quiet_nil
  | tell c =>
      exact Reply.report_quiet (slot.update_quiet clock .motor _)
        (c.modeEvents_quiet slot.index)
  | ignored c =>
      have hStill :
          Quiet
            (Reply.still slot clock
              ((slot.validate .motor).map
                (fun _ => c.answer))).events :=
        quiet_nil
      exact Reply.report_quiet hStill (fun _ => rfl)

theorem Imu.status_quiet
    (config : Config)
    (clock : Clock)
    (slot : Slot) :
    Quiet (Imu.status config clock slot).events := by
  unfold Imu.status
  dsimp only
  split
  · exact quiet_nil
  · exact quiet_nil
  · split
    · exact quiet_nil
    · have hLooked :
          Quiet
            ((slot.update clock.read.2 .imu
                (fun s => (recheck config clock.read.1 s).1)).map
              (fun s => (recheck config clock.read.1 s).2)).events :=
        slot.update_quiet clock.read.2 .imu _
      apply Reply.report_quiet hLooked
      intro found
      split
      · rfl
      · exact quiet_nil

theorem ImuCall.run_quiet
    (env : Env)
    (clock : Clock)
    (slot : Slot)
    (c : ImuCall) :
    Quiet (c.run env clock slot).events := by
  cases c with
  | ask q => exact quiet_nil
  | quaternion => exact quiet_nil
  | mode => exact quiet_nil
  | reset =>
      exact Reply.report_quiet (slot.update_quiet _ .imu _)
        (fun _ => rfl)
  | status => exact Imu.status_quiet env.config clock slot
  | isCalibrating => exact Imu.status_quiet env.config clock slot
  | ignored c =>
      have hStill :
          Quiet
            (Reply.still slot clock (slot.validate .imu)).events :=
        quiet_nil
      exact Reply.report_quiet hStill (fun _ => rfl)

theorem SensorCall.run_quiet
    (clock : Clock)
    (slot : Slot)
    (c : SensorCall) :
    Quiet (c.run clock slot).events := by
  cases c with
  | rotationPosition => exact quiet_nil
  | setRotationPosition position =>
      exact slot.update_quiet clock .rotation _
  | resetRotationPosition =>
      exact slot.update_quiet clock .rotation _
  | distance => exact quiet_nil
  | optical q => exact quiet_nil
  | gps q => exact quiet_nil
  | setGpsOffset offset => exact slot.update_quiet clock .gps _

theorem LineCall.run_quiet
    (clock : Clock)
    (slot : Slot)
    (c : LineCall) :
    Quiet (c.run clock slot).events := by
  cases c with
  | mode line => exact quiet_nil
  | setMode line use =>
      simp only [LineCall.run, Expander.setLineMode,
        Reply.map_events]
      split
      · exact slot.update_quiet clock .expander _
      · exact quiet_nil

/- No operation on a slot reports that a raw call failed. -/
theorem SlotCall.run_quiet
    (env : Env)
    (clock : Clock)
    (slot : Slot)
    (c : SlotCall) :
    Quiet (c.run env clock slot).events := by
  cases c with
  | presence c => cases c <;> rfl
  | handle c => exact quiet_nil
  | validate expected => exact quiet_nil
  | peek k => exact quiet_nil
  | publish k edit meanwhile =>
      simp only [SlotCall.run, Reply.mapError_events,
        Reply.map_events, Slot.publish_events]
      exact quiet_nil
  | check expected q => exact quiet_nil
  | motor c => exact c.run_quiet env clock slot
  | imu c => exact c.run_quiet env clock slot
  | sensor c => exact c.run_quiet clock slot
  | line c => exact c.run_quiet clock slot
  | link id role c =>
      have hOpen : Quiet (openLink slot.index id role) := rfl
      cases c with
      | check q => exact hOpen.append quiet_nil
      | radio c =>
          exact hOpen.append (quiet_map c.activities (fun _ => rfl))

------------------------------------------------------------
-- Failures of raw calls
------------------------------------------------------------

/- Why a raw call failed: a guard, or a code without meaning. -/
inductive RawFailure
  | guard (e : SlotError)
  | code (e : UnknownVariant)

namespace RawFailure

/-
  A missing or wrong device leaves the code 19, an index or a
  raw code out of range the code 22.
-/
def errno : RawFailure → Errno
  | .guard (.disconnected _) => ⟨19⟩
  | .guard (.incorrectDevice _ _ _) => ⟨19⟩
  | .guard (.outOfRange _) => ⟨22⟩
  | .code _ => ⟨22⟩

def event : RawFailure → Event
  | .guard e => .guardFailed e
  | .code e => .rawRejected e

theorem errno_guard
    (e : SlotError) :
    (guard e).errno = e.errno := by
  cases e <;> rfl

end RawFailure

namespace RawReply

/- What a raw call left behind, seen against a failure or none. -/
structure Follows
    (errno : Errno)
    (failure : Option RawFailure)
    (reply : RawReply) : Prop where
  errno_eq :
    reply.errno = (failure.map RawFailure.errno).getD errno
  refusals :
    reply.events.filter Event.isRefusal =
      (failure.map RawFailure.event).toList

theorem settle_follows_none
    {α : Type}
    {reply : Reply SlotError α}
    (errno : Errno)
    (failure : Value)
    (render : α → Value)
    (hReply : reply.Succeeds)
    (hQuiet : Quiet reply.events) :
    (settle errno failure render reply).Follows errno none := by
  rcases hReply with ⟨value, hValue⟩
  rw [settle_of_ok errno failure render hValue]
  exact ⟨rfl, hQuiet⟩

theorem settle_follows_guard
    {α : Type}
    {slot : Slot}
    {e : SlotError}
    {reply : Reply SlotError α}
    (errno : Errno)
    (failure : Value)
    (render : α → Value)
    (hReply : reply.Refused slot e) :
    (settle errno failure render reply).Follows errno
      (some (.guard e)) := by
  rw [settle_of_error errno failure render hReply.result]
  refine ⟨(RawFailure.errno_guard e).symm, ?_⟩
  simp only [hReply.events]
  rfl

end RawReply

namespace DeviceCall

/-
  How a raw call on a device fails. The guard comes first: a
  code without meaning counts only behind it. Calls that are
  not for a motor or an inertial sensor do not fail.
-/
def failure?
    (slot : Slot) : DeviceCall → Option RawFailure
  | .motor c =>
      match slot.validate .motor, c.typed with
      | .error e, _ => some (.guard e)
      | .ok (), .error e => some (.code e)
      | .ok (), .ok _ => none
  | .imu _ =>
      match slot.validate .imu with
      | .error e => some (.guard e)
      | .ok () => none
  | _ => none

/- A failure of a slot is one of a guard that refused. -/
theorem validate_of_failure?
    {slot : Slot}
    {c : DeviceCall}
    {e : SlotError}
    (hFailure : c.failure? slot = some (.guard e)) :
    ∃ t, slot.validate t = .error e := by
  cases c with
  | timestamp => cases hFailure
  | radio c => cases hFailure
  | motor c =>
      refine ⟨.motor, ?_⟩
      simp only [failure?] at hFailure
      split at hFailure
      · rename_i refusal hGuard
        cases hFailure
        exact hGuard
      · cases hFailure
      · cases hFailure
  | imu c =>
      refine ⟨.imu, ?_⟩
      simp only [failure?] at hFailure
      split at hFailure
      · rename_i refusal hGuard
        cases hFailure
        exact hGuard
      · cases hFailure

theorem motor_follows
    {i : SlotIndex}
    {slot : Slot}
    (env : Env)
    (clock : Clock)
    (errno : Errno)
    (c : RawMotorCall)
    (hSlot : slot.Coherent i) :
    (c.run env clock slot errno).Follows errno
      (failure? slot (.motor c)) := by
  cases hGuard : slot.validate .motor with
  | error refusal =>
      have hFailure :
          failure? slot (.motor c) = some (.guard refusal) := by
        simp only [failure?, hGuard]
      rw [hFailure]
      cases hTyped : c.typed with
      | ok call =>
          rw [c.run_of_typed env clock slot errno hTyped]
          exact RawReply.settle_follows_guard errno _ _
            (call.run_of_refused env clock hGuard)
      | error e =>
          rw [c.run_of_undecoded env clock slot errno hTyped,
            hGuard]
          exact RawReply.settle_follows_guard errno _ _
            (Reply.refused_still slot clock refusal)
  | ok passed =>
      cases hTyped : c.typed with
      | ok call =>
          have hFailure : failure? slot (.motor c) = none := by
            simp only [failure?, hGuard, hTyped]
          have hType := (slot.validate_eq_ok_iff .motor).mp hGuard
          rcases hSlot.stateOf (k := .motor) hType with ⟨m, hState⟩
          rw [hFailure, c.run_of_typed env clock slot errno hTyped]
          exact RawReply.settle_follows_none errno _ _
            (call.run_of_state env clock hState)
            (call.run_quiet env clock slot)
      | error e =>
          have hFailure :
              failure? slot (.motor c) = some (.code e) := by
            simp only [failure?, hGuard, hTyped]
          rw [hFailure,
            c.run_of_undecoded env clock slot errno hTyped, hGuard]
          exact ⟨rfl, rfl⟩

theorem imu_follows
    {i : SlotIndex}
    {slot : Slot}
    (env : Env)
    (clock : Clock)
    (errno : Errno)
    (c : RawImuCall)
    (hSlot : slot.Coherent i) :
    (c.run env clock slot errno).Follows errno
      (failure? slot (.imu c)) := by
  unfold failure?
  rw [c.run_eq env clock slot errno]
  cases hGuard : slot.validate .imu with
  | error e =>
      exact RawReply.settle_follows_guard errno _ _
        (c.typed.run_of_refused env clock hGuard)
  | ok passed =>
      have hType := (slot.validate_eq_ok_iff .imu).mp hGuard
      rcases hSlot.stateOf (k := .imu) hType with ⟨s, hState⟩
      exact RawReply.settle_follows_none errno _ _
        (c.typed.run_of_state env clock hState)
        (c.typed.run_quiet env clock slot)

theorem radio_quiet
    (slot : Slot)
    (clock : Clock)
    (errno : Errno)
    (c : RawRadioCall) :
    Quiet (c.run clock slot errno).events := by
  unfold RawRadioCall.run
  have hOpen : Quiet (openLink slot.index c.link.1 c.link.2) := rfl
  cases c.request? with
  | none => exact hOpen.append quiet_nil
  | some request =>
      exact hOpen.append
        (quiet_map request.activities (fun _ => rfl))

/- A raw call fails as said, or leaves cell and reports alone. -/
theorem run_follows
    {i : SlotIndex}
    {slot : Slot}
    (env : Env)
    (clock : Clock)
    (errno : Errno)
    (c : DeviceCall)
    (hSlot : slot.Coherent i) :
    (c.run env clock slot errno).Follows errno
      (c.failure? slot) := by
  cases c with
  | timestamp => exact ⟨rfl, rfl⟩
  | radio c => exact ⟨rfl, radio_quiet slot clock errno c⟩
  | motor c => exact motor_follows env clock errno c hSlot
  | imu c => exact imu_follows env clock errno c hSlot

end DeviceCall

end DeviceBay
