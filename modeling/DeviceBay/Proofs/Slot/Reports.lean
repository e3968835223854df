import DeviceBay.Proofs.Slot.ResetTime

/-
  This file says once what each operation on a slot reports,
  given the slot and the time it begins at.

  Key definitions include:
    * `Event.isCalibration`
    * `SlotCall.reports`

  Main declarations:
    * `SlotCall.run_events`
    * `SlotCall.reports_of_closes`
    * `SlotCall.closes_of_finished`
    * `ImuCall.reports_of_refused`
-/

namespace DeviceBay

/- Whether an event is about the calibration of a sensor. -/
def Event.isCalibration : Event → Bool
  | .calibrationStarted _ _ => true
  | .calibrationFinished _ => true
  | _ => false

------------------------------------------------------------
-- Reports
------------------------------------------------------------

/- A call that is accepted without doing anything says so. -/
def Slot.ignoredReports
    (slot : Slot)
    (expected : DeviceType)
    (call : IgnoredCall) : List Event :=
  match slot.validate expected with
  | .error _ => []
  | .ok _ => [.ignored slot.index call]

def MotorCall.reports
    (slot : Slot) : MotorCall → List Event
  | .ask _ => []
  | .tell c =>
      match slot.stateOf .motor with
      | .error _ => []
      | .ok m => c.modeEvents slot.index m
  | .ignored c => slot.ignoredReports .motor c.call

def ImuCall.reports
    (config : Config)
    (clock : Clock)
    (slot : Slot) : ImuCall → List Event
  | .reset =>
      match slot.stateOf .imu with
      | .error _ => []
      | .ok _ => [.calibrationStarted slot.index clock.now]
  | .status | .isCalibrating =>
      if Imu.closes config clock.now slot then
        [.calibrationFinished slot.index]
      else
        []
  | .ignored c => slot.ignoredReports .imu c.call
  | _ => []

def SlotCall.reports
    (env : Env)
    (clock : Clock)
    (slot : Slot) : SlotCall → List Event
  | .presence c => [c.event slot]
  | .motor c => c.reports slot
  | .imu c => c.reports env.config clock slot
  | .link id role c =>
      openLink slot.index id role ++ c.events slot.index
  | _ => []

------------------------------------------------------------
-- Operations report what is listed
------------------------------------------------------------

section Runs

variable (env : Env) (clock : Clock) (slot : Slot)

theorem MotorCall.run_events
    (c : MotorCall) :
    (c.run env clock slot).events = c.reports slot := by
  cases c with
  | ask q => rfl
  | tell c =>
      simp only [MotorCall.run, MotorCommand.run, Reply.map_events,
        MotorCall.reports]
      cases hState : slot.stateOf .motor with
      | error e =>
          simp only [Slot.update, hState]
          rfl
      | ok m =>
          rw [Slot.update_of_state clock _ hState]
          rfl
  | ignored c =>
      simp only [MotorCall.run, MotorIgnored.run, Reply.map_events,
        MotorCall.reports, Slot.ignoredReports]
      cases slot.validate .motor <;> rfl

theorem Imu.reset_events
    (config : Config) :
    (Imu.reset clock slot).events =
      ImuCall.reset.reports config clock slot := by
  simp only [ImuCall.reports]
  cases hState : slot.stateOf .imu with
  | error e => rw [reset_of_error clock hState]
  | ok s => rw [reset_of_state clock hState]

theorem Imu.status_events
    (config : Config) :
    (Imu.status config clock slot).events =
      ImuCall.status.reports config clock slot := by
  simp only [ImuCall.reports]
  cases hState : slot.stateOf .imu with
  | error e =>
      rw [status_of_error config clock hState,
        closes_of_error config clock.now hState]
      rfl
  | ok s =>
      rw [closes_of_state config clock.now hState]
      cases hReset : s.resetAt with
      | none =>
          rw [status_of_none config clock hState hReset]
          rfl
      | some start =>
          cases hOpen : windowOpen config clock.now start with
          | true =>
              rw [status_of_open config clock hState hReset hOpen]
              simp [hOpen]
          | false =>
              rw [status_of_over config clock hState hReset hOpen]
              simp [hOpen]

theorem ImuCall.run_events
    (c : ImuCall) :
    (c.run env clock slot).events =
      c.reports env.config clock slot := by
  cases c with
  | ask q => rfl
  | quaternion => rfl
  | mode => rfl
  | reset => exact Imu.reset_events clock slot env.config
  | status => exact Imu.status_events clock slot env.config
  | isCalibrating => exact Imu.status_events clock slot env.config
  | ignored c =>
      simp only [ImuCall.run, ImuIgnored.run, Reply.map_events,
        ImuCall.reports, Slot.ignoredReports]
      cases slot.validate .imu <;> rfl

theorem SensorCall.run_events
    (c : SensorCall) :
    (c.run clock slot).events = [] := by
  cases c with
  | rotationPosition => rfl
  | setRotationPosition position =>
      exact slot.update_events clock .rotation _
  | resetRotationPosition =>
      exact slot.update_events clock .rotation _
  | distance => rfl
  | optical q => rfl
  | gps q => rfl
  | setGpsOffset offset => exact slot.update_events clock .gps _

theorem LineCall.run_events
    (c : LineCall) :
    (c.run clock slot).events = [] := by
  cases c with
  | mode line => rfl
  | setMode line use =>
      simp only [LineCall.run, Expander.setLineMode,
        Reply.map_events]
      split
      · exact slot.update_events clock .expander _
      · rfl

theorem SlotCall.run_events
    (c : SlotCall) :
    (c.run env clock slot).events = c.reports env clock slot := by
  cases c with
  | presence c => rfl
  | handle c => rfl
  | validate expected => rfl
  | peek k => rfl
  | publish k edit meanwhile =>
      simp only [run, Reply.mapError_events, Reply.map_events,
        Slot.publish_events]
      rfl
  | check expected q => rfl
  | motor c => exact c.run_events env clock slot
  | imu c => exact c.run_events env clock slot
  | sensor c => exact c.run_events clock slot
  | line c => exact c.run_events clock slot
  | link id role c => rfl

end Runs

------------------------------------------------------------
-- Reports of calibrations
------------------------------------------------------------

section Calibration

variable {env : Env} {clock : Clock} {slot : Slot}

theorem SlotCall.reports_of_closes
    {c : SlotCall}
    (hCloses : c.closes env clock slot = true) :
    c.reports env clock slot =
      [.calibrationFinished slot.index] := by
  rcases Bool.and_eq_true_iff.mp hCloses with ⟨hReads, hOver⟩
  rcases cases_of_readsStatus hReads with rfl | rfl
  · simp only [reports, ImuCall.reports, if_pos hOver]
  · simp only [reports, ImuCall.reports, if_pos hOver]

theorem SlotCall.reports_of_readsStatus
    {c : SlotCall}
    (hReads : c.readsStatus = true)
    (hOpen : c.closes env clock slot = false) :
    c.reports env clock slot = [] := by
  rw [closes, hReads, Bool.true_and] at hOpen
  rcases cases_of_readsStatus hReads with rfl | rfl
  · simp only [reports, ImuCall.reports, hOpen]
    rfl
  · simp only [reports, ImuCall.reports, hOpen]
    rfl

theorem SlotCall.reports_of_reset
    {s : Imu}
    (hState : slot.stateOf .imu = .ok s) :
    (SlotCall.imu .reset).reports env clock slot =
      [.calibrationStarted slot.index clock.now] := by
  simp only [reports, ImuCall.reports, hState]

/- A call on a sensor that is not there reports nothing. -/
theorem ImuCall.reports_of_refused
    {e : SlotError}
    (config : Config)
    (clock : Clock)
    (c : ImuCall)
    (hRefused : slot.validate .imu = .error e) :
    c.reports config clock slot = [] := by
  have hState : slot.stateOf .imu = .error e :=
    Slot.stateOf_of_refused hRefused
  have hOpen := Imu.closes_of_error config clock.now hState
  cases c with
  | reset => simp only [reports, hState]
  | status =>
      simp only [reports, hOpen]
      rfl
  | isCalibrating =>
      simp only [reports, hOpen]
      rfl
  | ignored c => simp only [reports, Slot.ignoredReports, hRefused]
  | ask q => rfl
  | quaternion => rfl
  | mode => rfl

theorem ignored_not_calibration
    {expected : DeviceType}
    {call : IgnoredCall}
    {event : Event}
    (hMember : event ∈ slot.ignoredReports expected call) :
    event.isCalibration = false := by
  unfold Slot.ignoredReports at hMember
  split at hMember
  · cases hMember
  · rw [List.mem_singleton.mp hMember]
    rfl

theorem MotorCall.not_calibration
    {c : MotorCall}
    {event : Event}
    (hMember : event ∈ c.reports slot) :
    event.isCalibration = false := by
  cases c with
  | ask q => cases hMember
  | ignored c => exact ignored_not_calibration hMember
  | tell c =>
      simp only [reports] at hMember
      split at hMember
      · cases hMember
      · unfold MotorCommand.modeEvents at hMember
        split at hMember
        · cases hMember
        · split at hMember
          · cases hMember
          · rw [List.mem_singleton.mp hMember]
            rfl

theorem LinkCall.not_calibration
    {id : String}
    {role : LinkRole}
    {c : LinkCall}
    {event : Event}
    (hMember :
      event ∈ openLink slot.index id role ++ c.events slot.index) :
    event.isCalibration = false := by
  rcases List.mem_append.mp hMember with hOpen | hCall
  · rw [List.mem_singleton.mp hOpen]
    rfl
  · cases c with
    | check q => cases hCall
    | radio c =>
        rcases List.mem_map.mp hCall with ⟨activity, _, rfl⟩
        rfl

/- Calibrations are the business of sensors that calibrate. -/
theorem SlotCall.exists_of_calibration
    {c : SlotCall}
    {event : Event}
    (hMember : event ∈ c.reports env clock slot)
    (hCalibration : event.isCalibration = true) :
    c = .imu .reset ∨ c.readsStatus = true := by
  cases c
  case presence p =>
    rw [List.mem_singleton.mp hMember] at hCalibration
    cases p <;> cases hCalibration
  case motor c =>
    rw [c.not_calibration hMember] at hCalibration
    cases hCalibration
  case link id role c =>
    rw [LinkCall.not_calibration hMember] at hCalibration
    cases hCalibration
  case imu c =>
    cases c with
    | reset => exact Or.inl rfl
    | status => exact Or.inr rfl
    | isCalibrating => exact Or.inr rfl
    | ignored c =>
        rw [ignored_not_calibration hMember] at hCalibration
        cases hCalibration
    | ask q => cases hMember
    | quaternion => cases hMember
    | mode => cases hMember
  all_goals cases hMember

/- The end of a calibration is reported by what closes its window. -/
theorem SlotCall.closes_of_finished
    {c : SlotCall}
    {j : SlotIndex}
    (hMember :
      .calibrationFinished j ∈ c.reports env clock slot) :
    c.closes env clock slot = true ∧ j = slot.index := by
  rcases exists_of_calibration hMember rfl with rfl | hReads
  · simp only [reports, ImuCall.reports] at hMember
    split at hMember
    · cases hMember
    · cases List.mem_singleton.mp hMember
  · cases hCloses : c.closes env clock slot with
    | false =>
        rw [reports_of_readsStatus hReads hCloses] at hMember
        cases hMember
    | true =>
        rw [reports_of_closes hCloses] at hMember
        cases List.mem_singleton.mp hMember
        exact ⟨rfl, rfl⟩

end Calibration

end DeviceBay
