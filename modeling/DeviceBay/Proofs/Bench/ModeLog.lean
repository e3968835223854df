import DeviceBay.Proofs.Bench.MotorMemory
import DeviceBay.Proofs.Bench.Presence
import DeviceBay.Proofs.Motor.ModeChanges

/-
  This file proves that the reported changes of the control
  mode of a motor tell its mode: from the moment that a motor
  is put into a slot each change begins where the one before it
  ended, and the last one ends at the mode that the motor has,
  unless a mode is published.

  Key definitions include:
    * `Moment.modeChanges`
    * `Moment.publishesMode`

  Main declarations:
    * `Moment.modeChanges_of_succeeds`
    * `Moment.mem_modeChanges_of_reported`
    * `Bench.History.mode_since_install`
    * `Bench.mode_log_tells_the_mode`
-/

namespace DeviceBay

------------------------------------------------------------
-- Moments
------------------------------------------------------------

namespace Moment

variable {n m : Nat} {b : Fin n} {i : SlotIndex}

/- The changes of the mode that a moment reports for one slot. -/
def modeChanges
    (b : Fin n)
    (i : SlotIndex)
    (x : Moment n m) : List ModeChange :=
  match x.callOn? b i with
  | none => []
  | some _ => x.outcome.events.filterMap (Event.modeChangeOn? i)

/- Whether a moment publishes another control mode. -/
def publishesMode
    (b : Fin n)
    (i : SlotIndex)
    (x : Moment n m) : Bool :=
  match x.callOn? b i with
  | some (.publish .motor _ _) =>
      (x.writes? b i .controlMode).isSome
  | _ => false

variable {x : Moment n m} {c : SlotCall}

/- Changes of the mode are reports of states. -/
theorem filterMap_modeChangeOn?
    (i : SlotIndex)
    (events : List Event) :
    events.filterMap (Event.modeChangeOn? i) =
      (events.filter Event.isStateReport).filterMap
        (Event.modeChangeOn? i) := by
  rw [List.filterMap_filter]
  congr 1
  funext event
  cases event <;> rfl

theorem filterMap_events
    (hBench : x.bench.Coherent)
    (hCall : x.callOn? b i = some c)
    (j : SlotIndex) :
    x.outcome.events.filterMap (Event.modeChangeOn? j) =
      if i = j then c.modeChanges (x.bench.slot b i) else [] := by
  have hReports := (Bench.runs_of_callOn? hCall).stateReports
  rw [filterMap_modeChangeOn?, outcome, hReports,
    ← filterMap_modeChangeOn?, SlotCall.run_events,
    SlotCall.reports_modeChanges, (hBench b i).index]

theorem modeChanges_of_callOn?
    (hBench : x.bench.Coherent)
    (hCall : x.callOn? b i = some c) :
    x.modeChanges b i = c.modeChanges (x.bench.slot b i) := by
  rw [modeChanges, hCall]
  exact (filterMap_events hBench hCall i).trans (if_pos rfl)

/- Every change that is reported is one of the slot it names. -/
theorem mem_modeChanges_of_reported
    {previous mode : ControlMode}
    (hBench : x.bench.Coherent)
    (hMember : .modeChanged i previous mode ∈ x.outcome.events) :
    ∃ d, ⟨previous, mode⟩ ∈ x.modeChanges d i := by
  rcases exists_callOn?_of_stateReport hMember rfl with
    ⟨d, j, c, hCall⟩
  have hChange :
      ⟨previous, mode⟩ ∈
        x.outcome.events.filterMap (Event.modeChangeOn? i) :=
    List.mem_filterMap.mpr ⟨_, hMember, if_pos rfl⟩
  rw [filterMap_events hBench hCall i] at hChange
  split at hChange
  · rename_i hSlot
    subst hSlot
    refine ⟨d, ?_⟩
    rw [modeChanges_of_callOn? hBench hCall]
    exact hChange
  · cases hChange

------------------------------------------------------------
-- Calls that set the mode
------------------------------------------------------------

theorem exists_command_of_mode?
    {mode : ControlMode}
    (hMode : c.mode? = some mode) :
    ∃ command : MotorCommand,
      c = .motor (.tell command) ∧ command.mode? = some mode := by
  unfold SlotCall.mode? at hMode
  split at hMode
  · rename_i command
    exact ⟨command, rfl, hMode⟩
  · cases hMode

/- A command fails exactly if there is no motor in reach. -/
theorem fails_tell_iff
    {command : MotorCommand}
    (hBench : x.bench.Coherent)
    (hCall : x.callOn? b i = some (.motor (.tell command))) :
    x.outcome.Fails ↔
      ∃ e, (x.bench.slot b i).stateOf .motor = .error e := by
  rw [outcome, (Bench.runs_of_callOn? hCall).failed]
  by_cases hType : (x.bench.slot b i).connectedType = some .motor
  · rcases (hBench b i).stateOf (k := .motor) hType with ⟨m, hState⟩
    rcases SlotCall.run_of_admitted (x.bench.env b) x.bench.clock
        (hBench b i) (c := .motor (.tell command)) rfl hType with
      ⟨value, hValue⟩
    rw [hState, hValue]
    constructor
    · rintro ⟨e, hFailed⟩
      cases hFailed
    · rintro ⟨e, hRefused⟩
      cases hRefused
  · rcases Slot.exists_refusal_of_ne hType with ⟨e, hRefused⟩
    have hError :=
      (SlotCall.run_of_refused (c := .motor (.tell command))
        (x.bench.env b) x.bench.clock rfl hRefused).1
    have hState :
        (x.bench.slot b i).stateOf .motor = .error e :=
      Slot.stateOf_of_refused hRefused
    exact iff_of_true ⟨_, hError⟩ ⟨e, hState⟩

/- What sets no mode, or fails, reports no change of it. -/
theorem modeChanges_of_idle
    (hBench : x.bench.Coherent)
    (hCall : x.callOn? b i = some c)
    (hIdle : c.mode? = none ∨ x.outcome.Fails) :
    x.modeChanges b i = [] := by
  rw [modeChanges_of_callOn? hBench hCall, SlotCall.modeChanges]
  cases hMode : c.mode? with
  | none => rfl
  | some mode =>
      rcases exists_command_of_mode? hMode with ⟨command, rfl, _⟩
      rcases hIdle with hNone | hFails
      · cases hNone.symm.trans hMode
      · rcases (fails_tell_iff hBench hCall).mp hFails with
          ⟨e, hState⟩
        rw [hState]

/- A call that sets the mode reports if that was another one. -/
theorem modeChanges_of_succeeds
    {mode : ControlMode}
    (hBench : x.bench.Coherent)
    (hCall : x.callOn? b i = some c)
    (hMode : c.mode? = some mode)
    (hSucceeds : ¬ x.outcome.Fails) :
    ∃ old,
      (x.bench.slot b i).controlMode? = some old ∧
        (x.after.slot b i).controlMode? = some mode ∧
        x.modeChanges b i =
          if old = mode then [] else [⟨old, mode⟩] := by
  rcases exists_command_of_mode? hMode with ⟨command, rfl, hSets⟩
  rw [fails_tell_iff hBench hCall] at hSucceeds
  cases hState : (x.bench.slot b i).stateOf .motor with
  | error e => exact absurd ⟨e, hState⟩ hSucceeds
  | ok m =>
      refine ⟨m.controlMode, Slot.controlMode?_of_state hState, ?_,
        ?_⟩
      · rw [slot_after hCall, SlotCall.controlMode?_apply _ _ rfl,
          Slot.controlMode?_of_state hState]
        simp only [MotorRegister.write?, hState,
          SlotCall.told?_controlMode, hSets]
        rfl
      · rw [modeChanges_of_callOn? hBench hCall]
        simp only [SlotCall.modeChanges, hMode, hState]
        rfl

------------------------------------------------------------
-- Moments since a motor was put in
------------------------------------------------------------

/- A motor that was just put in is off. -/
theorem controlMode?_after_of_type?
    {t : Option DeviceType}
    (hType : x.type? b i = some t) :
    (x.after.slot b i).controlMode? =
      if t = some .motor then some .off else none := by
  rcases Option.bind_eq_some_iff.mp hType with ⟨c, hPresence, hSays⟩
  rw [slot_after_of_presenceCall? hPresence, Slot.controlMode?,
    PresenceCall.apply_stateAs?]
  cases c with
  | install t =>
      cases hSays
      exact apply_ite (Option.map (fun m : Motor => m.controlMode)) _ _ _
  | plugIn t =>
      cases hSays
      exact apply_ite (Option.map (fun m : Motor => m.controlMode)) _ _ _
  | connect => cases hSays
  | disconnect => cases hSays

theorem modeChanges_of_type?
    {t : Option DeviceType}
    (hBench : x.bench.Coherent)
    (hType : x.type? b i = some t) :
    x.modeChanges b i = [] := by
  rcases Option.bind_eq_some_iff.mp hType with ⟨c, hPresence, _⟩
  exact modeChanges_of_idle hBench (callOn?_of_presenceCall? hPresence)
    (Or.inl rfl)

theorem installs_of_type?
    (hType : x.type? b i = none) :
    x.installs b i = false := by
  cases hInstalls : x.installs b i with
  | false => rfl
  | true =>
      rcases (Option.any_eq_true _ _).mp hInstalls with
        ⟨c, hCall, hFresh⟩
      unfold SlotCall.installs at hFresh
      split at hFresh
      · rw [type?, presenceCall?_of_callOn? hCall] at hType
        cases hType
      · rw [type?, presenceCall?_of_callOn? hCall] at hType
        cases hType
      · cases hFresh

/-
  A moment that keeps the device, and publishes no mode, changes
  the mode as it reports.
-/
theorem controlMode?_after
    {mode : ControlMode}
    (hBench : x.bench.Coherent)
    (hType : x.type? b i = none)
    (hKeeps : x.publishesMode b i = false)
    (hMode : (x.bench.slot b i).controlMode? = some mode) :
    ∃ later,
      (x.after.slot b i).controlMode? = some later ∧
        x.modeChanges b i = ModeChange.between mode later := by
  cases hCall : x.callOn? b i with
  | none =>
      refine ⟨mode, ?_, ?_⟩
      · rw [slot_after_of_none hCall]
        exact hMode
      · rw [modeChanges, hCall]
        exact (if_pos rfl).symm
  | some c =>
      have hInstalls := installs_of_type? hType
      rw [installs_of_callOn? hCall] at hInstalls
      let written :=
        MotorRegister.write? (x.bench.env b) (x.bench.slot b i)
          .controlMode c
      refine ⟨written.getD mode, ?_, ?_⟩
      · rw [slot_after hCall,
          SlotCall.controlMode?_apply _ _ hInstalls, hMode]
        rfl
      · rw [modeChanges_of_callOn? hBench hCall]
        apply SlotCall.modeChanges_eq (x.bench.env b) hMode
        intro edit meanwhile hPublish
        subst hPublish
        rw [publishesMode, hCall] at hKeeps
        have hNone := Option.isSome_eq_false_iff.mp hKeeps
        rw [writes?, hCall] at hNone
        exact Option.isNone_iff_eq_none.mp hNone

theorem controlMode?_after_of_none
    (hBench : x.bench.Coherent)
    (hType : x.type? b i = none)
    (hNone : (x.bench.slot b i).controlMode? = none) :
    (x.after.slot b i).controlMode? = none ∧
      x.modeChanges b i = [] := by
  cases hCall : x.callOn? b i with
  | none =>
      rw [slot_after_of_none hCall, modeChanges, hCall]
      exact ⟨hNone, rfl⟩
  | some c =>
      have hInstalls := installs_of_type? hType
      rw [installs_of_callOn? hCall] at hInstalls
      rw [slot_after hCall, SlotCall.controlMode?_apply _ _ hInstalls,
        hNone, modeChanges_of_callOn? hBench hCall]
      exact ⟨rfl, SlotCall.modeChanges_of_none hNone⟩

end Moment

------------------------------------------------------------
-- Histories
------------------------------------------------------------

namespace Bench

variable {n m : Nat} {b : Fin n} {i : SlotIndex}
variable {past before after : List (Moment n m)}
variable {bench : Bench n m} {x : Moment n m}

/- The changes of the mode that moments report for one slot. -/
def modeLog
    (b : Fin n)
    (i : SlotIndex)
    (past : List (Moment n m)) : List ModeChange :=
  past.flatMap (Moment.modeChanges b i)

theorem modeLog_concat
    (past : List (Moment n m))
    (x : Moment n m) :
    modeLog b i (past ++ [x]) =
      modeLog b i past ++ x.modeChanges b i := by
  simp [modeLog]

/-
  The mode of the motor that was put into a slot before some
  moments, as the log of these tells it. There is none if any
  of them put in something else.
-/
structure ModeTold
    (b : Fin n)
    (i : SlotIndex)
    (seen : List (Moment n m))
    (bench : Bench n m) : Prop where
  tells : ModeChange.Tells .off (modeLog b i seen)
  mode :
    (bench.slot b i).controlMode? =
      if seen.any (fun y => (y.type? b i).isSome) then
        none
      else
        some (ModeChange.final .off (modeLog b i seen))

/- A moment that puts in no motor and publishes no mode. -/
theorem ModeTold.step
    {seen : List (Moment n m)}
    {y : Moment n m}
    (hTold : ModeTold b i seen y.bench)
    (hBench : y.bench.Coherent)
    (hOther : y.type? b i ≠ some (some .motor))
    (hKeeps : y.publishesMode b i = false) :
    ModeTold b i (seen ++ [y]) y.after := by
  have hMode := hTold.mode
  cases hType : y.type? b i with
  | some t =>
      have hNone := Moment.modeChanges_of_type? hBench hType
      have hAfter := Moment.controlMode?_after_of_type? hType
      have hGone : t ≠ some .motor := by
        intro hMotor
        rw [hMotor] at hType
        exact hOther hType
      rw [if_neg hGone] at hAfter
      constructor
      · rw [modeLog_concat, hNone, List.append_nil]
        exact hTold.tells
      · rw [hAfter]
        simp [hType]
  | none =>
      cases hSwapped : seen.any (fun y => (y.type? b i).isSome) with
      | true =>
          rw [hSwapped, if_pos rfl] at hMode
          rcases Moment.controlMode?_after_of_none hBench hType hMode
            with ⟨hAfter, hNone⟩
          constructor
          · rw [modeLog_concat, hNone, List.append_nil]
            exact hTold.tells
          · rw [hAfter, List.any_append, hSwapped]
            rfl
      | false =>
          rw [hSwapped, if_neg Bool.false_ne_true] at hMode
          rcases Moment.controlMode?_after hBench hType hKeeps hMode
            with ⟨later, hAfter, hChanges⟩
          constructor
          · rw [modeLog_concat, hChanges]
            exact hTold.tells.append later
          · rw [hAfter, modeLog_concat, hChanges,
              ModeChange.final_between]
            simp [hSwapped, hType]

theorem History.mode_since_install
    (hPast : History (before ++ x :: after) bench)
    (hMotor : x.type? b i = some (some .motor))
    (hOther : ∀ y ∈ after, y.type? b i ≠ some (some .motor))
    (hKeeps : ∀ y ∈ after, y.publishesMode b i = false) :
    ModeTold b i after bench := by
  apply hPast.follows_since (P := ModeTold b i)
  · constructor
    · exact ModeChange.tells_nil .off
    · rw [Moment.controlMode?_after_of_type? hMotor]
      rfl
  · intro seen y hMember hBench hTold
    exact hTold.step hBench (hOther y hMember) (hKeeps y hMember)
  · intro seen bench clock hTold
    exact ⟨hTold.tells, hTold.mode⟩

/- A motor in reach answers the mode that it has. -/
theorem answer_mode_of_controlMode?
    {mode : ControlMode}
    (hBench : bench.Coherent)
    (hType : (bench.slot b i).connectedType = some .motor)
    (hMode : (bench.slot b i).controlMode? = some mode) :
    (bench.step (.slot b i (.motor (.ask .mode)))).2.answer =
      .value (.controlMode mode) := by
  rcases (hBench b i).stateOf (k := .motor) hType with ⟨s, hState⟩
  rw [Slot.controlMode?_of_state hState] at hMode
  cases hMode
  exact answer_ask_of_state hState .mode

------------------------------------------------------------
-- The log tells the mode
------------------------------------------------------------

/-
  After any run, for every slot. Since a motor was put into it,
  while no other motor is and no mode is published, the changes
  of the mode that are reported begin where the motor was off,
  each goes on from the one before it to another mode, and the
  last one ends at the mode that the motor has and answers. A
  call that sets the mode and succeeds reports one change if
  that was another mode, and nothing else reports any, be it a
  call that fails or one that sets no mode.
-/
theorem mode_log_tells_the_mode
    (hPast : History past bench)
    (b : Fin n)
    (i : SlotIndex) :
    (∀ before x after,
      past = before ++ x :: after →
      x.type? b i = some (some .motor) →
      (∀ y ∈ after, y.type? b i ≠ some (some .motor)) →
      (∀ y ∈ after, y.publishesMode b i = false) →
        let log := modeLog b i after
        ModeChange.Tells .off log ∧
        (bench.slot b i).controlMode? =
          (if after.any (fun y => (y.type? b i).isSome) then
            none
          else
            some (ModeChange.final .off log)) ∧
        ((bench.slot b i).connectedType = some .motor →
          (bench.step (.slot b i (.motor (.ask .mode)))).2.answer =
            .value
              (.controlMode (ModeChange.final .off log)))) ∧
    (∀ x ∈ past, ∀ c, x.callOn? b i = some c →
      (c.mode? = none ∨ x.outcome.Fails →
        x.modeChanges b i = []) ∧
      (∀ mode, c.mode? = some mode → ¬ x.outcome.Fails →
        ∃ old,
          (x.bench.slot b i).controlMode? = some old ∧
            (x.after.slot b i).controlMode? = some mode ∧
            x.modeChanges b i =
              if old = mode then [] else [⟨old, mode⟩])) ∧
    (∀ x ∈ past, ∀ previous mode,
      .modeChanged i previous mode ∈ x.outcome.events →
        ∃ d, ⟨previous, mode⟩ ∈ x.modeChanges d i) := by
  refine ⟨?_, ?_, ?_⟩
  · intro before x after hSplit hMotor hOther hKeeps log
    have hHere := hPast
    rw [hSplit] at hHere
    have hTold := hHere.mode_since_install hMotor hOther hKeeps
    refine ⟨hTold.tells, hTold.mode, ?_⟩
    intro hType
    apply answer_mode_of_controlMode? hPast.coherent hType
    rcases (hPast.coherent b i).stateOf (k := .motor) hType with
      ⟨s, hState⟩
    have hMode := hTold.mode
    rw [Slot.controlMode?_of_state hState] at hMode
    rw [Slot.controlMode?_of_state hState]
    -- A motor in reach is still the one that was put in.
    split at hMode
    · cases hMode
    · exact hMode
  · intro x hMember c hCall
    have hBench := hPast.coherent_of_mem hMember
    constructor
    · exact Moment.modeChanges_of_idle hBench hCall
    · intro mode hMode hSucceeds
      exact Moment.modeChanges_of_succeeds hBench hCall hMode
        hSucceeds
  · intro x hMember previous mode hReported
    exact Moment.mem_modeChanges_of_reported
      (hPast.coherent_of_mem hMember) hReported

/-
  A motor that is driven by its driver and by raw calls, one of
  them while it is out of reach and one with the mode it has.
-/
def driven
    (b : Fin n)
    (s : Fin m) : List (Step n m) :=
  [.slot b 2 (.motor (.tell (.setVelocity 100))),
    .slot b 2 (.motor (.tell (.updateVelocity 50))),
    .device s (.own 2) (.motor (.velocitySet 200)),
    .slot b 2 (.presence .disconnect),
    .device s (.own 2) (.motor (.voltageSet 6000)),
    .slot b 2 (.presence .connect),
    .slot b 2 (.publish .motor (fun m => { m with voltage := 3 }) none),
    .device s (.own 2) (.motor (.modeSet 77)),
    .slot b 2 (.motor (.tell (.setVoltage 6000)))]

theorem mode_log_tells_the_mode_driven :
    let start : Bench 1 1 :=
      fresh (.manual ⟨7⟩) (Vector.replicate 1 {}) #v[0]
    let install : Step 1 1 := .slot 0 2 (.presence (.plugIn .motor))
    let after := (start.step install).1.moments (driven 0 0)
    let bench := (start.run (install :: driven 0 0)).1
    let log := modeLog 0 ⟨2, by decide⟩ after
    log =
      [⟨.off, .velocity⟩, ⟨.velocity, .unknown 77⟩,
        ⟨.unknown 77, .undefined⟩] ∧
    ModeChange.Tells .off log ∧
    (bench.step (.slot 0 2 (.motor (.ask .mode)))).2.answer =
      .value (.controlMode .undefined) := by
  intro start install after bench log
  have hPast : History (⟨start, install⟩ :: after) bench :=
    (History.fresh _ _ _).run (install :: driven 0 0)
  have hLog :
      log =
        [⟨.off, .velocity⟩, ⟨.velocity, .unknown 77⟩,
          ⟨.unknown 77, .undefined⟩] := by
    decide +kernel
  have hOther :
      ∀ y ∈ after,
        y.type? 0 ⟨2, by decide⟩ ≠ some (some .motor) := by
    decide +kernel
  have hKeeps :
      ∀ y ∈ after, y.publishesMode 0 ⟨2, by decide⟩ = false := by
    decide +kernel
  have hTold :=
    (mode_log_tells_the_mode hPast 0 ⟨2, by decide⟩).1 []
      ⟨start, install⟩ after rfl rfl hOther hKeeps
  have hFinal : ModeChange.final .off log = .undefined := by
    rw [hLog]
    rfl
  have hAnswer := hTold.2.2 (by decide +kernel)
  refine ⟨hLog, hTold.1, hAnswer.trans ?_⟩
  exact congrArg (fun mode => Answer.value (.controlMode mode)) hFinal

end Bench

end DeviceBay
