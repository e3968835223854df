import DeviceBay.Proofs.Bench.StatusReads
import DeviceBay.Proofs.Slot.Reports

/-
  This file proves that a calibration window closes once,
  however the clock moves: after the status read that closes
  it, further status reads find nothing and change nothing
  until a window is opened again. Each end of a calibration
  that is reported has a start of its own.

  Key definitions include:
    * `Moment.closes`
    * `Moment.opens`
    * `Moment.calibrations`
    * `Moment.ClosesWindow`
    * `Moment.OnlyLooks`

  Main declarations:
    * `Moment.finished_mem_iff`
    * `Bench.History.looks_since_closing`
    * `Bench.History.exists_started`
    * `Bench.windows_close_once`
-/

namespace DeviceBay

/- Reports of calibrations are reports of states. -/
theorem Event.filter_isCalibration
    (events : List Event) :
    events.filter isCalibration =
      (events.filter isStateReport).filter isCalibration := by
  rw [List.filter_filter]
  congr 1
  funext event
  cases event <;> rfl

------------------------------------------------------------
-- Moments
------------------------------------------------------------

namespace Moment

variable {n m : Nat}

/- Whether a moment is a status read that closes the window. -/
def closes
    (b : Fin n)
    (i : SlotIndex)
    (x : Moment n m) : Bool :=
  (x.callOn? b i).any
    (SlotCall.closes (x.bench.env b) x.bench.clock
      (x.bench.slot b i))

/- Whether a moment writes the start of a window, not its removal. -/
def opens
    (b : Fin n)
    (i : SlotIndex)
    (x : Moment n m) : Bool :=
  (x.resetWrite? b i).any Option.isSome

/- What a moment reports about calibrations because of one slot. -/
def calibrations
    (b : Fin n)
    (i : SlotIndex)
    (x : Moment n m) : List Event :=
  match x.callOn? b i with
  | none => []
  | some _ => x.outcome.events.filter Event.isCalibration

/-
  A status read that closes the window: it removes the start of
  the window and stamps the slot with a second reading, and it
  reports the end of the calibration.
-/
structure ClosesWindow
    (b : Fin n)
    (i : SlotIndex)
    (x : Moment n m) : Prop where
  slot :
    ∃ s start,
      (x.bench.slot b i).stateOf .imu = .ok s ∧
        s.resetAt = some start ∧
        x.after.slot b i =
          { x.bench.slot b i with
            timestamp := x.bench.clock.read.2.now
            state := .of .imu { s with resetAt := none } }
  readings :
    x.outcome.readings =
      [x.bench.clock.now, x.bench.clock.read.2.now]
  calibrations : x.calibrations b i = [.calibrationFinished i]

/- A status read that takes one reading and does nothing else. -/
structure OnlyLooks
    (b : Fin n)
    (i : SlotIndex)
    (x : Moment n m) : Prop where
  slot : x.after.slot b i = x.bench.slot b i
  readings : x.outcome.readings = [x.bench.clock.now]
  calibrations : x.calibrations b i = []

section Reports

variable {b : Fin n} {i : SlotIndex} {x : Moment n m}
variable {c : SlotCall}

theorem calibrations_eq
    (hCall : x.callOn? b i = some c) :
    x.calibrations b i =
      (c.reports (x.bench.env b) x.bench.clock
        (x.bench.slot b i)).filter Event.isCalibration := by
  have hRuns := Bench.runs_of_callOn? hCall
  rw [calibrations, hCall]
  dsimp only
  rw [Event.filter_isCalibration, outcome, hRuns.stateReports,
    ← Event.filter_isCalibration, SlotCall.run_events]

theorem mem_events_of_mem_calibrations
    {event : Event}
    (hMember : event ∈ x.calibrations b i) :
    event ∈ x.outcome.events := by
  unfold calibrations at hMember
  split at hMember
  · cases hMember
  · exact (List.mem_filter.mp hMember).1

/- Only a window that is there can be closed. -/
theorem resetAt?_ne_none_of_closes
    (hCloses : x.closes b i = true) :
    (x.bench.slot b i).resetAt? ≠ none := by
  rcases (Option.any_eq_true _ _).mp hCloses with ⟨c, hCall, hEnds⟩
  rcases SlotCall.exists_of_closes _ _ _ hEnds with
    ⟨s, start, hState, hReset, hOver⟩
  rw [Slot.resetAt?_of_state hState, hReset]
  exact Option.some_ne_none start

/- Every report of a calibration is because of some slot. -/
theorem exists_calibrations
    {event : Event}
    (hMember : event ∈ x.outcome.events)
    (hCalibration : event.isCalibration = true) :
    ∃ d j, event ∈ x.calibrations d j := by
  have hReport : event.isStateReport = true := by
    cases event <;> first | rfl | cases hCalibration
  rcases exists_callOn?_of_stateReport hMember hReport with
    ⟨d, j, c, hCall⟩
  refine ⟨d, j, ?_⟩
  rw [calibrations, hCall]
  exact List.mem_filter.mpr ⟨hMember, hCalibration⟩

/- A slot reports the end of a calibration when it closes it. -/
theorem finished_iff
    (hBench : x.bench.Coherent)
    (j : SlotIndex) :
    .calibrationFinished j ∈ x.calibrations b i ↔
      x.closes b i = true ∧ j = i := by
  cases hCall : x.callOn? b i with
  | none => simp [calibrations, closes, hCall]
  | some c =>
      have hIndex := (hBench b i).index
      rw [calibrations_eq hCall, closes, hCall, Option.any_some,
        List.mem_filter]
      constructor
      · rintro ⟨hMember, _⟩
        have hEnd := SlotCall.closes_of_finished hMember
        exact ⟨hEnd.1, hEnd.2.trans hIndex⟩
      · rintro ⟨hCloses, rfl⟩
        rw [SlotCall.reports_of_closes hCloses, hIndex]
        exact ⟨List.mem_singleton.mpr rfl, rfl⟩

/- In all, the end of a calibration is reported by a closing. -/
theorem finished_mem_iff
    (hBench : x.bench.Coherent)
    (i : SlotIndex) :
    .calibrationFinished i ∈ x.outcome.events ↔
      ∃ d, x.closes d i = true := by
  constructor
  · intro hFinished
    rcases exists_calibrations hFinished rfl with ⟨d, j, hSlot⟩
    have hEnd := (finished_iff hBench i).mp hSlot
    rw [hEnd.2]
    exact ⟨d, hEnd.1⟩
  · rintro ⟨d, hCloses⟩
    have hSlot := (finished_iff hBench i).mpr ⟨hCloses, rfl⟩
    exact mem_events_of_mem_calibrations hSlot

theorem closesWindow
    (hBench : x.bench.Coherent)
    (hCloses : x.closes b i = true) :
    x.ClosesWindow b i := by
  rcases (Option.any_eq_true _ _).mp hCloses with ⟨c, hCall, hEnds⟩
  have hReads := (Bool.and_eq_true_iff.mp hEnds).1
  have hEffect :=
    SlotCall.effect_of_readsStatus (x.bench.env b) x.bench.clock
      (x.bench.slot b i) hReads
  rw [if_pos hEnds] at hEffect
  rcases SlotCall.exists_of_closes _ _ _ hEnds with
    ⟨s, start, hState, hReset, hOver⟩
  constructor
  case slot =>
    refine ⟨s, start, hState, hReset, ?_⟩
    rw [slot_after hCall, hEffect, Effect.apply,
      Slot.update_of_state _ _ hState]
  case readings =>
    rw [outcome, Bench.readings_of_callOn? hCall,
      SlotCall.firstReading?_of_readsStatus _ hReads, hEffect]
    simp only [Effect.stamp?, hState]
    rfl
  case calibrations =>
    rw [calibrations_eq hCall, SlotCall.reports_of_closes hEnds,
      (hBench b i).index]
    rfl

theorem onlyLooks
    (hCall : x.callOn? b i = some c)
    (hReads : c.readsStatus = true)
    (hOpen : x.closes b i = false) :
    x.OnlyLooks b i := by
  rw [closes, hCall, Option.any_some] at hOpen
  have hEffect :=
    SlotCall.effect_of_readsStatus (x.bench.env b) x.bench.clock
      (x.bench.slot b i) hReads
  rw [hOpen, if_neg Bool.false_ne_true] at hEffect
  constructor
  case slot =>
    rw [slot_after hCall, hEffect]
    rfl
  case readings =>
    rw [outcome, Bench.readings_of_callOn? hCall,
      SlotCall.firstReading?_of_readsStatus _ hReads, hEffect]
    rfl
  case calibrations =>
    rw [calibrations_eq hCall,
      SlotCall.reports_of_readsStatus hReads hOpen]
    rfl

/- A reset or a status read that fails reports no calibration. -/
theorem calibrations_of_fails
    (hBench : x.bench.Coherent)
    {call : ImuCall}
    (hCall : x.callOn? b i = some (.imu call))
    (hFails : x.outcome.Fails) :
    x.calibrations b i = [] := by
  rcases (Bench.runs_of_callOn? hCall).failed.mp hFails with ⟨e, hError⟩
  have hRefused :
      (x.bench.slot b i).connectedType ≠ some .imu := by
    intro hType
    rcases SlotCall.run_of_admitted (x.bench.env b) x.bench.clock
        (hBench b i) (c := .imu call) rfl hType with
      ⟨value, hValue⟩
    cases hError.symm.trans hValue
  rcases Slot.exists_refusal_of_ne hRefused with ⟨refusal, hGuard⟩
  have hReports := call.reports_of_refused
    (x.bench.env b).config x.bench.clock hGuard
  rw [calibrations_eq hCall, SlotCall.reports, hReports]
  rfl

/- Unless it is published, an opening reports its start. -/
theorem started_of_opens
    (hBench : x.bench.Coherent)
    (hOpens : x.opens b i = true)
    (hUnpublished :
      ∀ edit meanwhile,
        x.callOn? b i = some (.publish .imu edit meanwhile) →
          x.resetWrite? b i = none) :
    ∃ start, .calibrationStarted i start ∈ x.calibrations b i := by
  rcases (Option.any_eq_true _ _).mp hOpens with
    ⟨written, hWrite, hSome⟩
  rcases Option.bind_eq_some_iff.mp hWrite with ⟨c, hCall, hSets⟩
  cases hWriter : c.setsReset with
  | false =>
      rw [SlotCall.resetWrite?_of_not_setsReset _ _ hWriter] at hSets
      cases hSets
  | true =>
      rcases SlotCall.cases_of_setsReset hWriter with
        rfl | ⟨edit, meanwhile, rfl⟩
      · cases hState : (x.bench.slot b i).stateOf .imu with
        | error e =>
            simp only [SlotCall.resetWrite?, hState] at hSets
            cases hSets
        | ok s =>
            refine ⟨x.bench.clock.now, ?_⟩
            rw [calibrations_eq hCall,
              SlotCall.reports_of_reset hState, (hBench b i).index]
            exact List.mem_singleton.mpr rfl
      · rw [hUnpublished edit meanwhile hCall] at hWrite
        cases hWrite

end Reports

end Moment

------------------------------------------------------------
-- Histories
------------------------------------------------------------

namespace Bench

variable {n m : Nat}

section Windows

variable {b : Fin n} {i : SlotIndex} {x : Moment n m}

theorem resetAt?_after_of_closes
    (hCloses : x.closes b i = true) :
    (x.after.slot b i).resetAt? = none := by
  rcases (Option.any_eq_true _ _).mp hCloses with ⟨c, hCall, hEnds⟩
  have hReads := (Bool.and_eq_true_iff.mp hEnds).1
  rw [Moment.slot_after hCall, SlotCall.resetAt?_status _ _ _ hReads,
    if_pos hEnds]

/- Where no window is open, only an opening makes one. -/
theorem resetAt?_after_of_not_opens
    (hNone : (x.bench.slot b i).resetAt? = none)
    (hShut : x.opens b i = false) :
    (x.after.slot b i).resetAt? = none := by
  cases hInstalls : x.installs b i with
  | true => exact Moment.resetAt?_after_of_installs hInstalls
  | false =>
      have hFades := Moment.fades hInstalls
      have hWritten :
          (x.resetWrite? b i).getD
            (x.bench.slot b i).resetAt? = none := by
        rw [hNone]
        rw [Moment.opens] at hShut
        cases hWrite : x.resetWrite? b i with
        | none => rfl
        | some written =>
            cases written with
            | none => rfl
            | some start =>
                rw [hWrite] at hShut
                cases hShut
      rw [hWritten] at hFades
      exact hFades.eq_none

variable {before after : List (Moment n m)} {bench : Bench n m}

/- After a closing there is no window until one is opened. -/
theorem History.none_since_closing
    (hPast : History (before ++ x :: after) bench)
    (hCloses : x.closes b i = true)
    (hShut : ∀ y ∈ after, y.opens b i = false) :
    (bench.slot b i).resetAt? = none := by
  apply hPast.holds_since
    (P := fun bench => (bench.slot b i).resetAt? = none)
  · exact resetAt?_after_of_closes hCloses
  · intro y hMember _ hNone
    exact resetAt?_after_of_not_opens hNone (hShut y hMember)
  · intro bench clock hNone
    exact hNone

/- Between two closings of windows one is opened. -/
theorem History.exists_opening
    {between : List (Moment n m)}
    {y : Moment n m}
    (hPast : History (before ++ x :: (between ++ y :: after)) bench)
    (hFirst : x.closes b i = true)
    (hSecond : y.closes b i = true) :
    ∃ z ∈ between, z.opens b i = true := by
  by_contra hShut
  have hSplit :
      before ++ x :: (between ++ y :: after) =
        (before ++ x :: between) ++ y :: after := by
    rw [List.append_assoc, List.cons_append]
  rw [hSplit] at hPast
  have hUpTo := hPast.upTo
  have hNone := hUpTo.none_since_closing hFirst (b := b) (i := i)
    (by
      intro z hMember
      cases hOpens : z.opens b i with
      | false => rfl
      | true => exact absurd ⟨z, hMember, hOpens⟩ hShut)
  exact Moment.resetAt?_ne_none_of_closes hSecond hNone

/- After a closing there is nothing to find for a status read. -/
theorem History.looks_since_closing
    (hPast : History (before ++ x :: after) bench)
    (hCloses : x.closes b i = true)
    (hShut : ∀ y ∈ after, y.opens b i = false) :
    ((bench.slot b i).connectedType = some .imu →
      bench.StatusReads b i false) ∧
    (∀ s c, bench.callOn? b i s = some c →
      c.readsStatus = true → Moment.OnlyLooks b i ⟨bench, s⟩) := by
  have hNone := hPast.none_since_closing hCloses hShut
  constructor
  · intro hType
    have hReads := Coherent.statusReads hPast.coherent hType
    rw [hNone] at hReads
    exact hReads
  · intro s c hCall hReads
    have hMoment : Moment.callOn? b i ⟨bench, s⟩ = some c := hCall
    apply Moment.onlyLooks hMoment hReads
    cases hAgain : Moment.closes b i ⟨bench, s⟩ with
    | false => rfl
    | true =>
        have hWindow := Moment.resetAt?_ne_none_of_closes hAgain
        exact absurd hNone hWindow

/- Between two ends of calibrations one is started. -/
theorem History.exists_started
    {between : List (Moment n m)}
    {y : Moment n m}
    (hPast : History (before ++ x :: (between ++ y :: after)) bench)
    (hFirst : .calibrationFinished i ∈ x.calibrations b i)
    (hSecond : .calibrationFinished i ∈ y.calibrations b i)
    (hUnpublished :
      ∀ z ∈ between, ∀ edit meanwhile,
        z.callOn? b i = some (.publish .imu edit meanwhile) →
          z.resetWrite? b i = none) :
    ∃ z ∈ between, ∃ start,
      .calibrationStarted i start ∈ z.calibrations b i := by
  have hFirstBench : x.bench.Coherent := hPast.upTo.coherent
  have hSecondBench : y.bench.Coherent :=
    hPast.coherent_of_mem (by simp)
  rcases hPast.exists_opening
      ((Moment.finished_iff hFirstBench i).mp hFirst).1
      ((Moment.finished_iff hSecondBench i).mp hSecond).1 with
    ⟨z, hMember, hOpens⟩
  have hBench : z.bench.Coherent :=
    hPast.coherent_of_mem (by simp [hMember])
  exact ⟨z, hMember,
    Moment.started_of_opens hBench hOpens
      (hUnpublished z hMember)⟩

end Windows

------------------------------------------------------------
-- Windows close once
------------------------------------------------------------

/-
  However the clock moves during a run, for every slot:
  a status read changes the slot if and only if it closes the
  window, which is also the only thing that reports the end of
  a calibration; after it, until a window is opened again, all
  status reads find none and change nothing; between two ends
  of calibrations of the slot lies the start of one, unless
  that start was published; and what fails reports neither.
-/
theorem windows_close_once
    {past : List (Moment n m)}
    {bench : Bench n m}
    (hPast : History past bench)
    (b : Fin n)
    (i : SlotIndex) :
    (∀ x ∈ past, ∀ c,
      x.callOn? b i = some c → c.readsStatus = true →
        (x.closes b i = true → x.ClosesWindow b i) ∧
        (x.closes b i = false → x.OnlyLooks b i)) ∧
    (∀ x ∈ past,
      .calibrationFinished i ∈ x.outcome.events ↔
        ∃ d, x.closes d i = true) ∧
    (∀ before x after,
      past = before ++ x :: after →
      x.closes b i = true →
      (∀ y ∈ after, y.opens b i = false) →
        ((bench.slot b i).connectedType = some .imu →
          bench.StatusReads b i false) ∧
        (∀ s c, bench.callOn? b i s = some c →
          c.readsStatus = true → Moment.OnlyLooks b i ⟨bench, s⟩)) ∧
    (∀ before x between y after,
      past = before ++ x :: (between ++ y :: after) →
      .calibrationFinished i ∈ x.calibrations b i →
      .calibrationFinished i ∈ y.calibrations b i →
      (∀ z ∈ between, ∀ edit meanwhile,
        z.callOn? b i = some (.publish .imu edit meanwhile) →
          z.resetWrite? b i = none) →
        ∃ z ∈ between, ∃ start,
          .calibrationStarted i start ∈ z.calibrations b i) ∧
    (∀ x ∈ past, ∀ c,
      x.callOn? b i = some (.imu c) → x.outcome.Fails →
        x.calibrations b i = []) := by
  refine ⟨?_, ?_, ?_, ?_, ?_⟩
  · intro x hMember c hCall hReads
    have hBench := hPast.coherent_of_mem hMember
    exact ⟨Moment.closesWindow hBench,
      Moment.onlyLooks hCall hReads⟩
  · intro x hMember
    have hBench := hPast.coherent_of_mem hMember
    exact Moment.finished_mem_iff hBench i
  · intro before x after hSplit hCloses hShut
    subst hSplit
    exact hPast.looks_since_closing hCloses hShut
  · intro before x between y after hSplit hFirst hSecond
      hUnpublished
    subst hSplit
    exact hPast.exists_started hFirst hSecond hUnpublished
  · intro x hMember c hCall hFails
    have hBench := hPast.coherent_of_mem hMember
    exact Moment.calibrations_of_fails hBench hCall hFails

/- A reset of a sensor, and the time that its calibration takes. -/
def elapsed
    (b : Fin n) : List (Step n m) :=
  [.slot b 3 (.presence (.plugIn .imu)),
    .slot b 3 (.imu .reset),
    .clock (.advance (.ofMillis 3000))]

/- The clock is set back to before the reset, to no avail. -/
theorem windows_close_once_set_back :
    let origin : Bench 1 1 :=
      Bench.fresh (.manual ⟨7⟩) (Vector.replicate 1 {}) #v[0]
    let closing : Moment 1 1 :=
      ⟨(origin.run (elapsed 0)).1, .slot 0 3 (.imu .status)⟩
    let bench := (closing.after.step (.clock (.set ⟨0⟩))).1
    History
        (origin.moments (elapsed 0) ++
          [closing, ⟨closing.after, .clock (.set ⟨0⟩)⟩])
        bench ∧
    closing.ClosesWindow 0 ⟨3, by decide⟩ ∧
    bench.StatusReads 0 ⟨3, by decide⟩ false := by
  intro origin closing bench
  have hPast :
      History
        (origin.moments (elapsed 0) ++
          [closing, ⟨closing.after, .clock (.set ⟨0⟩)⟩])
        bench := by
    have hElapsed := (History.fresh (.manual ⟨7⟩)
      (Vector.replicate 1 {}) #v[0]).run (elapsed 0)
    have hSteps :=
      (hElapsed.step (.slot 0 3 (.imu .status))).step
        (.clock (.set ⟨0⟩))
    rw [List.append_assoc] at hSteps
    exact hSteps
  have hCloses : closing.closes 0 ⟨3, by decide⟩ = true := by
    decide +kernel
  have hShut :
      Moment.opens 0 ⟨3, by decide⟩
        ⟨closing.after, .clock (.set ⟨0⟩)⟩ = false := by
    decide +kernel
  have hType :
      (bench.slot 0 ⟨3, by decide⟩).connectedType = some .imu := by
    decide +kernel
  have hWindows := windows_close_once hPast 0 ⟨3, by decide⟩
  refine ⟨hPast, ?_, ?_⟩
  · apply (hWindows.1 closing (by simp) (.imu .status) ?_ rfl).1
      hCloses
    rfl
  · apply (hWindows.2.2.1 _ closing _ rfl hCloses ?_).1 hType
    intro y hMember
    rw [List.mem_singleton.mp hMember]
    exact hShut

end Bench

end DeviceBay
