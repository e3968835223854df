import DeviceBay.Proofs.Slot.Effect
import DeviceBay.Proofs.Slot.Twins

/-
  This file compares two slots that differ in nothing but their
  timestamps. Every operation passes the guard on both or on
  neither, writes the same and leaves such slots again, and it
  answers the same unless it is asked for the timestamp. A
  write makes the slots equal.

  Key definitions include:
    * `verdict`
    * `Slot.SameButStamp`
    * `SlotCall.reportsStamp`
    * `Reply.Agrees`

  Main declarations:
    * `SlotCall.run_agrees`
    * `Effect.apply_sameButStamp`
    * `Effect.apply_eq_of_stamp?`
-/

namespace DeviceBay

------------------------------------------------------------
-- Verdicts
------------------------------------------------------------

/- Whether a result is an error, and which one. -/
def verdict
    {ε α : Type}
    (result : Except ε α) : Except ε Unit :=
  result.map (fun _ => ())

theorem verdict_map
    {ε α β : Type}
    (f : α → β)
    (result : Except ε α) :
    verdict (result.map f) = verdict result := by
  cases result <;> rfl

theorem verdict_mapError
    {ε δ α : Type}
    (f : ε → δ)
    (result : Except ε α) :
    verdict (result.mapError f) = (verdict result).mapError f := by
  cases result <;> rfl

theorem cases_of_verdict
    {ε α : Type}
    {left right : Except ε α}
    (hVerdict : verdict right = verdict left) :
    (∃ e, left = .error e ∧ right = .error e) ∨
      ∃ value other, left = .ok value ∧ right = .ok other := by
  cases left with
  | error e =>
      cases right with
      | error f =>
          cases hVerdict
          exact Or.inl ⟨e, rfl, rfl⟩
      | ok other => cases hVerdict
  | ok value =>
      cases right with
      | error f => cases hVerdict
      | ok other => exact Or.inr ⟨value, other, rfl, rfl⟩

------------------------------------------------------------
-- Slots up to their timestamps
------------------------------------------------------------

structure Slot.SameButStamp
    (a b : Slot) : Prop where
  index : b.index = a.index
  present : b.present = a.present
  deviceType : b.deviceType = a.deviceType
  state : b.state = a.state

namespace Slot.SameButStamp

variable {a b : Slot}

/- The one slot with the timestamp of the other. -/
theorem eq_restamped
    (hSame : a.SameButStamp b) :
    b = { a with timestamp := b.timestamp } := by
  rcases b with ⟨index, present, deviceType, stamp, state⟩
  rcases hSame with ⟨hIndex, hPresent, hType, hState⟩
  dsimp only at hIndex hPresent hType hState
  subst hIndex hPresent hType hState
  rfl

theorem eq_of_timestamp
    (hSame : a.SameButStamp b)
    (hStamp : b.timestamp = a.timestamp) :
    b = a := by
  rw [hSame.eq_restamped, hStamp]

theorem validate
    (hSame : a.SameButStamp b)
    (expected : DeviceType) :
    b.validate expected = a.validate expected := by
  rw [hSame.eq_restamped]
  rfl

theorem holds
    (hSame : a.SameButStamp b)
    (expected : DeviceType) :
    b.holds expected = a.holds expected := by
  rw [hSame.eq_restamped]
  rfl

theorem connectedType
    (hSame : a.SameButStamp b) :
    b.connectedType = a.connectedType := by
  rw [hSame.eq_restamped]
  rfl

theorem stateOf
    (hSame : a.SameButStamp b)
    (k : Kind) :
    b.stateOf k = a.stateOf k := by
  rw [hSame.eq_restamped]
  rfl

/- A look that does not mind the timestamp. -/
theorem look
    (hSame : a.SameButStamp b)
    {α : Type}
    {k : Kind}
    {f : k.State → Instant → α}
    (hSilent : ∀ state s t, f state s = f state t) :
    b.look k f = a.look k f := by
  rw [Slot.look, Slot.look, hSame.stateOf k]
  congr 1
  funext state
  exact hSilent state _ _

theorem verdict_look
    (hSame : a.SameButStamp b)
    {α : Type}
    {k : Kind}
    (f : k.State → Instant → α) :
    verdict (b.look k f) = verdict (a.look k f) := by
  rw [Slot.look, Slot.look, verdict_map, verdict_map,
    hSame.stateOf k]

end Slot.SameButStamp

------------------------------------------------------------
-- Answers that report the timestamp
------------------------------------------------------------

def HandleCall.reportsStamp : HandleCall → Bool
  | .timestamp => true
  | .copy => true
  | _ => false

def DriverCheck.reportsStamp : DriverCheck → Bool
  | .timestamp => true
  | _ => false

/- Whether the timestamp of the slot is part of the answer. -/
def SlotCall.reportsStamp : SlotCall → Bool
  | .handle c => c.reportsStamp
  | .peek _ => true
  | .check _ q => q.reportsStamp
  | .motor (.ask .rawPosition) => true
  | .link _ _ (.check q) => q.reportsStamp
  | _ => false

------------------------------------------------------------
-- Replies
------------------------------------------------------------

/-
  Replies to one operation on two slots: all that they leave is
  the same up to the timestamp, they fail alike, and the result
  is the same unless it `reports` the timestamp.
-/
structure Reply.Agrees
    {ε α : Type}
    (reports : Bool)
    (left right : Reply ε α) : Prop where
  result : reports = false → right.result = left.result
  verdict : verdict right.result = verdict left.result
  slot : left.slot.SameButStamp right.slot
  clock : right.clock = left.clock
  readings : right.readings = left.readings
  events : right.events = left.events

namespace Reply

variable {ε δ α β : Type}
variable {reports : Bool}

theorem still_agrees
    {a b : Slot}
    (hSame : a.SameButStamp b)
    (clock : Clock)
    {left right : Except ε α}
    (hResult : reports = false → right = left)
    (hVerdict : verdict right = verdict left) :
    (still a clock left).Agrees reports (still b clock right) where
  result := hResult
  verdict := hVerdict
  slot := hSame
  clock := rfl
  readings := rfl
  events := rfl

/- Replies that differ in the slot that they leave at most. -/
theorem Agrees.of_eq
    {left right : Reply ε α}
    (hSame : left.slot.SameButStamp right.slot)
    (hEq : right = { left with slot := right.slot }) :
    left.Agrees reports right := by
  rw [hEq] at hSame ⊢
  exact ⟨fun _ => rfl, rfl, hSame, rfl, rfl, rfl⟩

/- A result that does not depend on the timestamp at all. -/
theorem still_agrees_of_eq
    {a b : Slot}
    (hSame : a.SameButStamp b)
    (clock : Clock)
    {left right : Except ε α}
    (hEq : right = left) :
    (still a clock left).Agrees reports (still b clock right) := by
  subst hEq
  exact .of_eq hSame rfl

/- Answers that are given in any case, whatever they report. -/
theorem still_agrees_of_ok
    {a b : Slot}
    (hSame : a.SameButStamp b)
    (clock : Clock)
    (left right : α) :
    (still a clock (.ok left : Except ε α)).Agrees true
      (still b clock (.ok right)) :=
  still_agrees hSame clock nofun rfl

variable {left right : Reply ε α}

theorem Agrees.map
    (hAgrees : left.Agrees reports right)
    (f : α → β) :
    (left.map f).Agrees reports (right.map f) where
  result hSilent := by
    rw [map_result, map_result, hAgrees.result hSilent]
  verdict := by
    rw [map_result, map_result, verdict_map, verdict_map,
      hAgrees.verdict]
  slot := hAgrees.slot
  clock := hAgrees.clock
  readings := hAgrees.readings
  events := hAgrees.events

theorem Agrees.mapError
    (hAgrees : left.Agrees reports right)
    (f : ε → δ) :
    (left.mapError f).Agrees reports (right.mapError f) where
  result hSilent := by
    rw [mapError_result, mapError_result, hAgrees.result hSilent]
  verdict := by
    rw [mapError_result, mapError_result, verdict_mapError,
      verdict_mapError, hAgrees.verdict]
  slot := hAgrees.slot
  clock := hAgrees.clock
  readings := hAgrees.readings
  events := hAgrees.events

/- What is reported depends on the result and what is the same. -/
theorem Agrees.report
    (hAgrees : left.Agrees false right)
    (said other : α → List Event)
    (hEvents : other = said) :
    (left.report said).Agrees false (right.report other) := by
  subst hEvents
  have hResult := hAgrees.result rfl
  constructor
  case result =>
    intro _
    rw [report_result, report_result, hResult]
  case verdict =>
    rw [report_result, report_result, hResult]
  case slot =>
    rw [report_slot, report_slot]
    exact hAgrees.slot
  case clock =>
    rw [report_clock, report_clock, hAgrees.clock]
  case readings =>
    rw [report_readings, report_readings, hAgrees.readings]
  case events =>
    cases hLeft : left.result with
    | error e =>
        rw [hLeft] at hResult
        rw [report_of_error _ hLeft, report_of_error _ hResult,
          hAgrees.events]
    | ok value =>
        rw [hLeft] at hResult
        rw [report_events_of_ok _ hLeft,
          report_events_of_ok _ hResult, hAgrees.events]

end Reply

------------------------------------------------------------
-- Operations
------------------------------------------------------------

section Operations

variable {a b : Slot} (hSame : a.SameButStamp b)
variable (env : Env) (clock : Clock)

include hSame

theorem Slot.update_agrees
    (k : Kind)
    (edit : k.State → k.State) :
    (a.update clock k edit).Agrees false
      (b.update clock k edit) := by
  have hStates := hSame.stateOf k
  cases hState : a.stateOf k with
  | error e =>
      rw [hState] at hStates
      simp only [update, hState, hStates]
      exact Reply.still_agrees_of_eq hSame clock rfl
  | ok before =>
      rw [hState] at hStates
      rw [update_of_state clock edit hState,
        update_of_state clock edit hStates]
      exact .of_eq
        ⟨hSame.index, hSame.present, hSame.deviceType, rfl⟩ rfl

theorem Slot.publish_agrees
    (k : Kind)
    (edit : k.State → k.State)
    (meanwhile : Option Duration) :
    (a.publish clock k edit meanwhile).Agrees false
      (b.publish clock k edit meanwhile) := by
  have hUpdate := update_agrees hSame clock k edit
  have hMapped := hUpdate.map (fun _ => ())
  unfold publish
  dsimp only
  rw [hUpdate.result rfl]
  cases (a.update clock k edit).result with
  | error e => exact hMapped
  | ok before =>
      cases meanwhile with
      | none => exact hMapped
      | some d =>
          have hClock := congrArg (·.advance d) hUpdate.clock
          exact { hMapped with clock := hClock }

theorem MotorCall.run_agrees
    (c : MotorCall) :
    (c.run env clock a).Agrees (SlotCall.motor c).reportsStamp
      (c.run env clock b) := by
  cases c with
  | ask q =>
      apply Reply.still_agrees hSame
      case hResult =>
        intro hSilent
        have hLook : q.ask env b = q.ask env a := by
          apply hSame.look
          intro m s t
          cases q
          case rawPosition => cases hSilent
          all_goals rfl
        rw [hLook]
      case hVerdict =>
        rw [verdict_map, verdict_map]
        exact hSame.verdict_look _
  | tell c =>
      have hUpdate :=
        Slot.update_agrees hSame clock .motor (c.apply env.owners)
      have hReport :=
        hUpdate.report (c.modeEvents a.index)
          (c.modeEvents b.index) (by rw [hSame.index])
      exact (hReport.map _).map _
  | ignored c =>
      have hStill :
          (Reply.still a clock
            ((a.validate .motor).map (fun _ => c.answer))).Agrees
            false
            (Reply.still b clock
              ((b.validate .motor).map (fun _ => c.answer))) := by
        apply Reply.still_agrees_of_eq hSame
        rw [hSame.validate]
      exact (hStill.report _ _ (by rw [hSame.index])).map _

theorem Imu.reset_agrees :
    (Imu.reset clock a).Agrees false (Imu.reset clock b) := by
  have hStates := hSame.stateOf .imu
  cases hState : a.stateOf .imu with
  | error e =>
      rw [hState] at hStates
      rw [reset_of_error clock hState, reset_of_error clock hStates]
      exact .of_eq hSame rfl
  | ok s =>
      rw [hState] at hStates
      rw [reset_of_state clock hState, reset_of_state clock hStates,
        hSame.index]
      exact .of_eq ⟨rfl, hSame.present, hSame.deviceType, rfl⟩ rfl

/- The window is the same, and so is what becomes of it. -/
theorem Imu.status_agrees
    (config : Config) :
    (Imu.status config clock a).Agrees false
      (Imu.status config clock b) := by
  have hStates := hSame.stateOf .imu
  cases hState : a.stateOf .imu with
  | error e =>
      rw [hState] at hStates
      rw [status_of_error config clock hState,
        status_of_error config clock hStates]
      exact .of_eq hSame rfl
  | ok s =>
      rw [hState] at hStates
      cases hReset : s.resetAt with
      | none =>
          rw [status_of_none config clock hState hReset,
            status_of_none config clock hStates hReset]
          exact .of_eq hSame rfl
      | some start =>
          cases hOpen : windowOpen config clock.now start with
          | true =>
              rw [status_of_open config clock hState hReset hOpen,
                status_of_open config clock hStates hReset hOpen]
              exact .of_eq hSame rfl
          | false =>
              rw [status_of_over config clock hState hReset hOpen,
                status_of_over config clock hStates hReset hOpen,
                hSame.index]
              exact .of_eq
                ⟨rfl, hSame.present, hSame.deviceType, rfl⟩ rfl

theorem ImuCall.run_agrees
    (c : ImuCall) :
    (c.run env clock a).Agrees false (c.run env clock b) := by
  cases c with
  | ask q =>
      apply Reply.still_agrees_of_eq hSame
      have hLook : q.ask b = q.ask a :=
        hSame.look (fun _ _ _ => rfl)
      rw [hLook]
  | quaternion =>
      apply Reply.still_agrees_of_eq hSame
      rw [Imu.quaternion, Imu.quaternion, hSame.validate]
  | mode =>
      apply Reply.still_agrees_of_eq hSame
      rw [Imu.mode, Imu.mode, hSame.validate]
  | reset => exact (Imu.reset_agrees hSame clock).map _
  | status => exact (Imu.status_agrees hSame clock env.config).map _
  | isCalibrating =>
      have hStatus := Imu.status_agrees hSame clock env.config
      exact (hStatus.map _).map _
  | ignored c =>
      have hStill :
          (Reply.still a clock (a.validate .imu)).Agrees false
            (Reply.still b clock (b.validate .imu)) := by
        apply Reply.still_agrees_of_eq hSame
        rw [hSame.validate]
      exact (hStill.report _ _ (by rw [hSame.index])).map _

theorem SensorCall.run_agrees
    (c : SensorCall) :
    (c.run clock a).Agrees false (c.run clock b) := by
  cases c with
  | rotationPosition =>
      apply Reply.still_agrees_of_eq hSame
      rw [Rotation.ask, Rotation.ask,
        hSame.look (fun _ _ _ => rfl)]
  | distance =>
      apply Reply.still_agrees_of_eq hSame
      rw [Distance.ask, Distance.ask,
        hSame.look (fun _ _ _ => rfl)]
  | optical q =>
      apply Reply.still_agrees_of_eq hSame
      rw [OpticalQuery.ask, OpticalQuery.ask,
        hSame.look (fun _ _ _ => rfl)]
  | gps q =>
      apply Reply.still_agrees_of_eq hSame
      rw [GpsQuery.ask, GpsQuery.ask,
        hSame.look (fun _ _ _ => rfl)]
  | setRotationPosition position =>
      have hUpdate := Slot.update_agrees hSame clock .rotation
        (fun s => { s with position := position })
      exact (hUpdate.map _).map _
  | resetRotationPosition =>
      have hUpdate := Slot.update_agrees hSame clock .rotation
        (fun s => { s with position := .zero })
      exact (hUpdate.map _).map _
  | setGpsOffset offset =>
      have hUpdate := Slot.update_agrees hSame clock .gps
        (fun s => { s with offset := offset })
      exact (hUpdate.map _).map _

theorem LineCall.run_agrees
    (c : LineCall) :
    (c.run clock a).Agrees false (c.run clock b) := by
  cases c with
  | mode line =>
      apply Reply.still_agrees_of_eq hSame
      unfold Expander.lineMode
      split
      · rw [hSame.look (fun _ _ _ => rfl)]
      · rfl
  | setMode line use =>
      simp only [LineCall.run, Expander.setLineMode]
      split
      · have hUpdate := Slot.update_agrees hSame clock .expander
          (fun s => { s with lines := s.lines.set line use })
        exact ((hUpdate.map _).mapError _).map _
      · have hStill (result : Except LineError Unit) :
            (Reply.still a clock result).Agrees false
              (Reply.still b clock result) :=
          Reply.still_agrees_of_eq hSame clock rfl
        exact (hStill _).map _

theorem DriverCheck.ask_sameButStamp
    (expected : DeviceType)
    {q : DriverCheck}
    (hSilent : q.reportsStamp = false) :
    q.ask expected b = q.ask expected a := by
  cases q with
  | slotIndex => exact congrArg Except.ok hSame.index
  | deviceType => rfl
  | isConnected => exact congrArg Except.ok (hSame.holds expected)
  | timestamp => cases hSilent
  | validate => exact hSame.validate expected

theorem DriverCheck.verdict_sameButStamp
    (expected : DeviceType)
    (q : DriverCheck) :
    verdict (q.ask expected b) = verdict (q.ask expected a) := by
  cases q with
  | slotIndex => rfl
  | deviceType => rfl
  | isConnected => rfl
  | timestamp =>
      rw [ask, ask, Slot.stampOf, Slot.stampOf, hSame.validate]
      cases a.validate expected <;> rfl
  | validate => exact congrArg verdict (hSame.validate expected)

theorem LinkCall.result_sameButStamp
    {id : String}
    {role : LinkRole}
    {c : LinkCall}
    (hSilent : (SlotCall.link id role c).reportsStamp = false) :
    c.result b = c.result a := by
  cases c with
  | radio c => rfl
  | check q =>
      have hAsk := DriverCheck.ask_sameButStamp hSame .radio hSilent
      rw [LinkCall.result, LinkCall.result, hAsk]

theorem LinkCall.verdict_sameButStamp
    (c : LinkCall) :
    verdict (c.result b) = verdict (c.result a) := by
  cases c with
  | radio c => rfl
  | check q =>
      rw [result, result, verdict_mapError, verdict_mapError,
        verdict_map, verdict_map,
        DriverCheck.verdict_sameButStamp hSame]

theorem HandleCall.answer_sameButStamp
    {c : HandleCall}
    (hSilent : c.reportsStamp = false) :
    c.answer env b = c.answer env a := by
  cases c with
  | index => rw [answer, answer, hSame.index]
  | timestamp => cases hSilent
  | connectedType => rw [answer, answer, hSame.connectedType]
  | stateType => rw [answer, answer, hSame.state]
  | copy => cases hSilent
  | config => rfl

theorem PresenceCall.apply_sameButStamp
    (c : PresenceCall) :
    (c.apply a).SameButStamp (c.apply b) := by
  cases c with
  | install t => exact ⟨hSame.index, hSame.present, rfl, rfl⟩
  | connect =>
      exact ⟨hSame.index, rfl, hSame.deviceType, hSame.state⟩
  | disconnect =>
      exact ⟨hSame.index, rfl, hSame.deviceType, hSame.state⟩
  | plugIn t => exact ⟨hSame.index, rfl, rfl, rfl⟩

theorem PresenceCall.event_sameButStamp
    (c : PresenceCall) :
    c.event b = c.event a := by
  cases c <;>
    simp only [event, hSame.index, hSame.deviceType]

/- An operation minds the timestamp only where it reports it. -/
theorem SlotCall.run_agrees
    (c : SlotCall) :
    (c.run env clock a).Agrees c.reportsStamp
      (c.run env clock b) := by
  cases c with
  | presence c =>
      constructor
      case slot => exact c.apply_sameButStamp hSame
      case events =>
        exact congrArg (fun e => [e]) (c.event_sameButStamp hSame)
      all_goals intros; rfl
  | handle c =>
      apply Reply.still_agrees hSame
      case hResult =>
        intro hSilent
        rw [c.answer_sameButStamp hSame env hSilent]
      case hVerdict => rfl
  | validate expected =>
      apply Reply.still_agrees_of_eq hSame
      rw [hSame.validate]
  | peek k =>
      apply Reply.still_agrees hSame
      case hResult => exact nofun
      case hVerdict =>
        rw [verdict_mapError, verdict_mapError, hSame.verdict_look]
  | publish k edit meanwhile =>
      have hPublish :=
        Slot.publish_agrees hSame clock k edit meanwhile
      exact (hPublish.map _).mapError _
  | check expected q =>
      apply Reply.still_agrees hSame
      case hResult =>
        intro hSilent
        rw [DriverCheck.ask_sameButStamp hSame expected hSilent]
      case hVerdict =>
        rw [verdict_mapError, verdict_mapError, verdict_map,
          verdict_map, DriverCheck.verdict_sameButStamp hSame]
  | motor c => exact (c.run_agrees hSame env clock).mapError _
  | imu c => exact (c.run_agrees hSame env clock).mapError _
  | sensor c => exact (c.run_agrees hSame clock).mapError _
  | line c => exact (c.run_agrees hSame clock).mapError _
  | link id role c =>
      constructor
      case result =>
        exact fun hSilent => LinkCall.result_sameButStamp hSame hSilent
      case verdict => exact LinkCall.verdict_sameButStamp hSame c
      case slot => exact hSame
      case events =>
        simp only [run, hSame.index]
      all_goals rfl

------------------------------------------------------------
-- Effects
------------------------------------------------------------

theorem ImuCall.effect_sameButStamp
    (config : Config)
    (c : ImuCall) :
    c.effect config clock b = c.effect config clock a := by
  have hCloses :
      Imu.closes config clock.now b =
        Imu.closes config clock.now a := by
    rw [Imu.closes, Imu.closes, hSame.stateOf .imu]
  cases c <;> simp only [effect, hCloses]

theorem SlotCall.effect_sameButStamp
    (c : SlotCall) :
    c.effect env clock b = c.effect env clock a := by
  cases c with
  | motor c => cases c <;> rfl
  | imu c => exact c.effect_sameButStamp hSame clock env.config
  | _ => rfl

theorem Effect.stamp?_sameButStamp
    (effect : Effect) :
    effect.stamp? b = effect.stamp? a := by
  cases effect with
  | update clock k edit => rw [stamp?, stamp?, hSame.stateOf k]
  | _ => rfl

theorem Effect.apply_sameButStamp
    (effect : Effect) :
    (effect.apply a).SameButStamp (effect.apply b) := by
  cases effect with
  | nothing => exact hSame
  | presence c => exact c.apply_sameButStamp hSame
  | update clock k edit =>
      exact (Slot.update_agrees hSame clock k edit).slot

/- A write leaves nothing of what the timestamps were. -/
theorem Effect.apply_eq_of_stamp?
    {effect : Effect}
    {t : Instant}
    (hStamp : effect.stamp? a = some t) :
    effect.apply b = effect.apply a := by
  apply (effect.apply_sameButStamp hSame).eq_of_timestamp
  rw [apply_timestamp, apply_timestamp,
    effect.stamp?_sameButStamp hSame, hStamp]
  rfl

end Operations

end DeviceBay
