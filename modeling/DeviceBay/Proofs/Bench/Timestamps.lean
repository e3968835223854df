import DeviceBay.Proofs.Bench.History
import DeviceBay.Proofs.Bench.RawRefinement
import DeviceBay.Proofs.Slot.Stamps

/-
  This file proves that the timestamp of a slot is, over any
  run and however the clock moves, the reading that the last
  write of its state took behind the guard, and that all who
  report the timestamp report this one.

  Key definitions include:
    * `Moment.stamp?`
    * `Moment.Stamps`
    * `Moment.KeepsStamp`
    * `Bench.ReportsStamp`

  Main declarations:
    * `Moment.timestamp_after`
    * `Bench.History.timestamp_eq_last_stamp`
    * `Bench.timestamps_tell_the_last_write`
-/

namespace DeviceBay

------------------------------------------------------------
-- Moments
------------------------------------------------------------

namespace Moment

variable {n m : Nat}

/-
  The reading that a moment stamps a slot with: the last one
  that it takes, if it writes the state of a kind of device and
  such a device is there.
-/
def stamp?
    (b : Fin n)
    (i : SlotIndex)
    (x : Moment n m) : Option Instant :=
  let write? :=
    (x.callOn? b i).bind
      (SlotCall.writes? (x.bench.env b) x.bench.clock
        (x.bench.slot b i))
  match write? with
  | none => none
  | some k =>
      if (x.bench.slot b i).holds k.deviceType then
        x.outcome.readings.getLast?
      else
        none

/-
  A moment that puts a new state into a slot, stamped with a
  reading. It takes that reading at its guard, and at most one
  other before it.
-/
structure Stamps
    (b : Fin n)
    (i : SlotIndex)
    (t : Instant)
    (x : Moment n m) : Prop where
  slot :
    ∃ (k : Kind) (before after : k.State),
      (x.bench.slot b i).stateOf k = .ok before ∧
        x.after.slot b i =
          { x.bench.slot b i with
            timestamp := t
            state := .of k after }
  readings :
    x.outcome.readings = [t] ∧ t = x.bench.clock.now ∨
      x.outcome.readings = [x.bench.clock.now, t] ∧
        t = x.bench.clock.read.2.now

/- A moment that leaves a timestamp, even if it puts a device in. -/
structure KeepsStamp
    (b : Fin n)
    (i : SlotIndex)
    (x : Moment n m) : Prop where
  timestamp :
    (x.after.slot b i).timestamp = (x.bench.slot b i).timestamp
  state :
    x.installs b i = false →
      (x.after.slot b i).state = (x.bench.slot b i).state

section Stamps

variable {b : Fin n} {i : SlotIndex} {x : Moment n m}

theorem effectOn_of_callOn?
    {c : SlotCall}
    (hCall : x.callOn? b i = some c) :
    x.bench.effectOn b i x.step =
      c.effect (x.bench.env b) x.bench.clock (x.bench.slot b i) := by
  have hBench : x.bench.callOn? b i x.step = some c := hCall
  simp only [Bench.effectOn, hBench]

/- The readings of a write are those up to the guard and at it. -/
theorem readings_of_stamp
    {c : SlotCall}
    {t : Instant}
    (hCall : x.callOn? b i = some c)
    (hStamp :
      (c.effect (x.bench.env b) x.bench.clock
        (x.bench.slot b i)).stamp? (x.bench.slot b i) = some t) :
    x.outcome.readings =
      (c.firstReading? x.bench.clock).toList ++ [t] := by
  rw [outcome, Bench.readings_of_callOn? hCall, hStamp]
  rfl

/- The stamp of a moment is that of its effect. -/
theorem stamp?_eq
    (hBench : x.bench.Coherent)
    (b : Fin n)
    (i : SlotIndex) :
    x.stamp? b i =
      (x.bench.effectOn b i x.step).stamp? (x.bench.slot b i) := by
  cases hCall : x.callOn? b i with
  | none =>
      have hNone : x.bench.callOn? b i x.step = none := hCall
      simp only [stamp?, hCall, Bench.effectOn, hNone]
      rfl
  | some c =>
      rw [effectOn_of_callOn? hCall]
      simp only [stamp?, hCall, Option.bind_some]
      cases hWrites :
          c.writes? (x.bench.env b) x.bench.clock
            (x.bench.slot b i) with
      | none => exact (SlotCall.stamp?_of_no_write hWrites).symm
      | some k =>
          by_cases hType :
              (x.bench.slot b i).connectedType = some k.deviceType
          · rcases (hBench b i).stateOf hType with ⟨before, hState⟩
            have hHolds :=
              ((x.bench.slot b i).holds_eq_true_iff _).mpr hType
            have hStamp := SlotCall.stamp?_of_admitted hWrites hState
            simp only [hHolds, readings_of_stamp hCall hStamp]
            rw [hStamp]
            simp
          · rcases Slot.exists_refusal_of_ne hType with ⟨e, hRefused⟩
            have hHolds :
                ¬ (x.bench.slot b i).holds k.deviceType = true := by
              rw [Slot.holds_eq_true_iff]
              exact hType
            have hStamp := SlotCall.stamp?_of_refused hWrites
              (Slot.stateOf_of_refused hRefused)
            simp only [if_neg hHolds]
            exact hStamp.symm

/- A moment stamps a slot, or leaves its timestamp. -/
theorem timestamp_after
    (hBench : x.bench.Coherent)
    (b : Fin n)
    (i : SlotIndex) :
    (x.after.slot b i).timestamp =
      (x.stamp? b i).getD (x.bench.slot b i).timestamp := by
  rw [stamp?_eq hBench, after, x.bench.step_slot b i x.step]
  exact Effect.apply_timestamp _ _

theorem stamps
    {t : Instant}
    (hBench : x.bench.Coherent)
    (hStamp : x.stamp? b i = some t) :
    x.Stamps b i t := by
  rw [stamp?_eq hBench] at hStamp
  cases hCall : x.callOn? b i with
  | none =>
      have hNone : x.bench.callOn? b i x.step = none := hCall
      simp only [Bench.effectOn, hNone] at hStamp
      cases hStamp
  | some c =>
      rw [effectOn_of_callOn? hCall] at hStamp
      have hReadings := readings_of_stamp hCall hStamp
      rcases SlotCall.exists_of_stamp? hStamp with
        ⟨k, old, hWrites, hState, rfl⟩
      rcases SlotCall.apply_of_admitted hWrites hState with
        ⟨new, hSlot⟩
      constructor
      case slot =>
        refine ⟨k, old, new, hState, ?_⟩
        rw [slot_after hCall, hSlot]
      case readings =>
        rcases c.guardClock_cases x.bench.clock with
          ⟨hFirst, hClock⟩ | ⟨hFirst, hClock⟩
        · rw [hFirst] at hReadings
          exact Or.inl ⟨hReadings, congrArg Clock.now hClock⟩
        · rw [hFirst] at hReadings
          exact Or.inr ⟨hReadings, congrArg Clock.now hClock⟩

theorem keepsStamp
    (hBench : x.bench.Coherent)
    (hStamp : x.stamp? b i = none) :
    x.KeepsStamp b i := by
  constructor
  case timestamp =>
    rw [timestamp_after hBench, hStamp]
    rfl
  case state =>
    intro hKeeps
    cases hCall : x.callOn? b i with
    | none => rw [slot_after_of_none hCall]
    | some c =>
        rw [stamp?_eq hBench, effectOn_of_callOn? hCall] at hStamp
        rw [slot_after hCall]
        cases hEffect :
            c.effect (x.bench.env b) x.bench.clock
              (x.bench.slot b i) with
        | nothing => rfl
        | presence p =>
            cases SlotCall.eq_presence_of_effect hEffect
            rw [installs_of_callOn? hCall] at hKeeps
            cases p with
            | install t => cases hKeeps
            | plugIn t => cases hKeeps
            | connect => rfl
            | disconnect => rfl
        | update clock k edit =>
            rw [hEffect] at hStamp
            cases hState : (x.bench.slot b i).stateOf k with
            | error e =>
                rw [Effect.apply,
                  Slot.update_slot_of_error clock edit hState]
            | ok old =>
                simp only [Effect.stamp?, hState] at hStamp
                cases hStamp

/- What fails does not stamp. -/
theorem stamp?_of_fails
    (hBench : x.bench.Coherent)
    (hFails : x.outcome.Fails) :
    x.stamp? b i = none := by
  cases hCall : x.callOn? b i with
  | none => simp only [stamp?, hCall, Option.bind_none]
  | some c =>
      rcases (Bench.runs_of_callOn? hCall).failed.mp hFails with
        ⟨e, hError⟩
      rw [stamp?_eq hBench, effectOn_of_callOn? hCall]
      cases hStamp :
          (c.effect (x.bench.env b) x.bench.clock
            (x.bench.slot b i)).stamp? (x.bench.slot b i) with
      | none => rfl
      | some t =>
          rcases SlotCall.exists_of_stamp? hStamp with
            ⟨k, old, hWrites, hState, hTime⟩
          have hType := Slot.connectedType_of_state hState
          rcases SlotCall.run_of_admitted (x.bench.env b)
              x.bench.clock (hBench b i)
              (SlotCall.guard?_of_writes? hWrites) hType with
            ⟨value, hValue⟩
          cases hError.symm.trans hValue

end Stamps

end Moment

------------------------------------------------------------
-- Reports
------------------------------------------------------------

namespace Bench

variable {n m : Nat}

/-
  All who report the timestamp of a slot report the same: the
  handle of the slot, the bay, the raw surfaces, and, where
  their guard lets them, all drivers and what hands out states.
-/
structure ReportsStamp
    (bench : Bench n m)
    (b : Fin n)
    (i : SlotIndex)
    (t : Instant) : Prop where
  handle :
    (bench.step (.slot b i (.handle .timestamp))).2.answer =
      .value (.instant t)
  bay : (bench.bay b).timestampAt i = .ok t
  raw :
    ∀ s h, bench.resolve s h = some (b, i) →
      (bench.step (.device s h .timestamp)).2.answer.rawValue? =
        some (.nat t.toNat)
  driver :
    ∀ expected, (bench.slot b i).connectedType = some expected →
      (bench.step
        (.slot b i (.check expected .timestamp))).2.answer =
          .value (.instant t)
  link :
    (bench.slot b i).connectedType = some .radio →
      ∀ id role,
        (bench.step
          (.slot b i (.link id role (.check .timestamp)))).2.answer =
            .value (.instant t)
  rawPosition :
    (bench.slot b i).connectedType = some .motor →
      ∃ position,
        (bench.step
          (.slot b i (.motor (.ask .rawPosition)))).2.answer =
            .value (.stampedPosition position t)
  peek :
    ∀ k : Kind, (bench.slot b i).connectedType = some k.deviceType →
      ∃ state : k.State,
        (bench.step (.slot b i (.peek k))).2.answer =
          .value (.stamped (.of k state) t)

theorem stampOf_of_connected
    {slot : Slot}
    {expected : DeviceType}
    (hType : slot.connectedType = some expected) :
    slot.stampOf expected = .ok slot.timestamp := by
  simp only [Slot.stampOf, (slot.validate_eq_ok_iff expected).mpr hType]

theorem Coherent.reportsStamp
    {bench : Bench n m}
    (hBench : bench.Coherent)
    (b : Fin n)
    (i : SlotIndex) :
    bench.ReportsStamp b i (bench.slot b i).timestamp := by
  constructor
  case handle =>
    rw [stepSlot_eq rfl]
    rfl
  case bay =>
    simp only [Bay.timestampAt, Bay.index?_of_lt i.isLt]
    rfl
  case raw =>
    intro s h hHandle
    rw [stepDevice_eq hHandle rfl]
    rfl
  case driver =>
    intro expected hType
    rw [stepSlot_eq rfl]
    simp only [SlotCall.run, Reply.still, DriverCheck.ask,
      stampOf_of_connected hType]
    rfl
  case link =>
    intro hType id role
    rw [stepSlot_eq rfl]
    simp only [SlotCall.run, LinkCall.result, DriverCheck.ask,
      stampOf_of_connected hType]
    rfl
  case rawPosition =>
    intro hType
    rcases (hBench b i).stateOf (k := .motor) hType with ⟨s, hState⟩
    exact ⟨s.rawPosition, answer_ask_of_state hState .rawPosition⟩
  case peek =>
    intro k hType
    rcases (hBench b i).stateOf hType with ⟨s, hState⟩
    refine ⟨s, ?_⟩
    rw [stepSlot_eq rfl]
    simp only [SlotCall.run, Slot.look_of_state _ hState]
    rfl

------------------------------------------------------------
-- Histories
------------------------------------------------------------

section Histories

variable {past : List (Moment n m)} {bench : Bench n m}

/- A run never starts a timestamp afresh. -/
theorem History.timestamp_eq_last_stamp
    (hPast : History past bench)
    (b : Fin n)
    (i : SlotIndex) :
    (bench.slot b i).timestamp =
      (lastWrite? (Moment.stamp? b i) past).getD .epoch := by
  apply hPast.eq_last_write_ever
    (f := fun bench => (bench.slot b i).timestamp)
  · intro clock configs views
    rw [fresh_slot]
  · intro x hBench
    exact Moment.timestamp_after hBench b i
  · intro bench clock
    rfl

/-
  However the clock moves, also while a state is being changed,
  the timestamp of a slot is the reading that the last write of
  its state took behind the guard, or that of the epoch, and
  all reports agree on it. A write is stamped at its guard, and
  nothing else moves the timestamp: not what fails, and not
  what puts another device into the slot.
-/
theorem timestamps_tell_the_last_write
    (hPast : History past bench)
    (b : Fin n)
    (i : SlotIndex) :
    bench.ReportsStamp b i
      ((lastWrite? (Moment.stamp? b i) past).getD .epoch) ∧
    (bench.slot b i).timestamp =
      (lastWrite? (Moment.stamp? b i) past).getD .epoch ∧
    (∀ x ∈ past,
      (∀ t, x.stamp? b i = some t → x.Stamps b i t) ∧
      (x.stamp? b i = none → x.KeepsStamp b i) ∧
      (x.outcome.Fails → x.stamp? b i = none)) := by
  have hStamp := hPast.timestamp_eq_last_stamp b i
  refine ⟨?_, hStamp, ?_⟩
  · rw [← hStamp]
    exact hPast.coherent.reportsStamp b i
  · intro x hMember
    have hBench := hPast.coherent_of_mem hMember
    exact ⟨fun t => Moment.stamps hBench,
      Moment.keepsStamp hBench, Moment.stamp?_of_fails hBench⟩

end Histories

/-
  A sensor whose state is changed while the clock moves on, and
  which is then exchanged for a motor.
-/
def exchanged
    (b : Fin n) : List (Step n m) :=
  [.slot b 2 (.presence (.plugIn .rotation)),
    .clock (.set ⟨40⟩),
    .slot b 2
      (.publish .rotation (fun s => { s with position := .zero })
        (some (.ofMillis 5))),
    .slot b 2 (.presence (.install (some .motor)))]

/- The motor has the timestamp of the sensor, from before. -/
theorem timestamps_tell_the_last_write_exchanged :
    let origin : Bench 1 1 :=
      Bench.fresh (.manual ⟨7⟩) (Vector.replicate 1 {}) #v[0]
    let bench := (origin.run (exchanged 0)).1
    History (origin.moments (exchanged 0)) bench ∧
    bench.clock.now = ⟨45⟩ ∧
    bench.ReportsStamp 0 ⟨2, by decide⟩ ⟨40⟩ := by
  intro origin bench
  have hPast : History (origin.moments (exchanged 0)) bench :=
    (History.fresh _ _ _).run (exchanged 0)
  have hLast :
      lastWrite? (Moment.stamp? 0 ⟨2, by decide⟩)
        (origin.moments (exchanged 0)) = some ⟨40⟩ := by
    decide +kernel
  have hReports :=
    (timestamps_tell_the_last_write hPast 0 ⟨2, by decide⟩).1
  rw [hLast] at hReports
  refine ⟨hPast, ?_, hReports⟩
  decide +kernel

end Bench

end DeviceBay
