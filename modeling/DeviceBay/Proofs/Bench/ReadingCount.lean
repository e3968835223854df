import DeviceBay.Proofs.Bench.CalibrationSpan
import DeviceBay.Proofs.Slot.Stamps
import Mathlib.Algebra.GroupWithZero.Nat

/-
  This file counts the readings of the clock that each step
  takes, and sums them up over a run. On a clock that ticks
  once a reading, and that is not set, the run ends at the time
  it began at, with all ticks and all advances added.

  Key definitions include:
    * `SlotCall.readingCount`
    * `Moment.readingCount`
    * `Moment.advanced`

  Main declarations:
    * `SlotCall.length_readings`
    * `Moment.readings_eq`
    * `Moment.toNat_now_after`
    * `Bench.toNat_now_run`
    * `Bench.readings_are_counted`
-/

namespace DeviceBay

------------------------------------------------------------
-- Operations
------------------------------------------------------------

namespace SlotCall

/-
  How often an operation reads the clock. A write takes one
  reading behind the guard. A reset takes another one before
  it, and so does a status read, which writes only to close the
  window.
-/
def readingCount
    (succeeds closes : Bool) : SlotCall → Nat
  | .publish _ _ _ => succeeds.toNat
  | .motor (.tell _) => succeeds.toNat
  | .imu .reset => 1 + succeeds.toNat
  | .imu .status => 1 + closes.toNat
  | .imu .isCalibrating => 1 + closes.toNat
  | .sensor (.setRotationPosition _) => succeeds.toNat
  | .sensor .resetRotationPosition => succeeds.toNat
  | .sensor (.setGpsOffset _) => succeeds.toNat
  | .line (.setMode _ _) => succeeds.toNat
  | _ => 0

section Counts

variable (env : Env) (clock : Clock)
variable {slot : Slot} {i : SlotIndex}

/- What writes takes its stamp exactly if it succeeds. -/
theorem stamp?_isSome
    (hSlot : slot.Coherent i)
    (c : SlotCall) :
    ((c.effect env clock slot).stamp? slot).isSome =
      ((c.writes? env clock slot).isSome &&
        (c.run env clock slot).result.isOk) := by
  cases hWrites : c.writes? env clock slot with
  | none =>
      rw [stamp?_of_no_write hWrites]
      rfl
  | some k =>
      have hGuard := guard?_of_writes? hWrites
      by_cases hType : slot.connectedType = some k.deviceType
      · rcases hSlot.stateOf hType with ⟨before, hState⟩
        rcases c.run_of_admitted env clock hSlot hGuard hType with
          ⟨value, hValue⟩
        rw [stamp?_of_admitted hWrites hState, hValue]
        rfl
      · rcases Slot.exists_refusal_of_ne hType with ⟨e, hRefused⟩
        rw [stamp?_of_refused hWrites
            (Slot.stateOf_of_refused hRefused),
          (run_of_refused env clock hGuard hRefused).1]
        rfl

theorem isOk_of_closes
    (hSlot : slot.Coherent i)
    {c : SlotCall}
    (hCloses : c.closes env clock slot = true) :
    (c.run env clock slot).result.isOk = true := by
  rcases exists_of_closes env clock slot hCloses with
    ⟨s, start, hState, _⟩
  have hType := Slot.connectedType_of_state hState
  have hReads := (Bool.and_eq_true_iff.mp hCloses).1
  have hGuard : c.guard? = some .imu := by
    rcases cases_of_readsStatus hReads with rfl | rfl
    · rfl
    · rfl
  rcases c.run_of_admitted env clock hSlot hGuard hType with
    ⟨value, hValue⟩
  rw [hValue]
  rfl

/- A status read writes only what it succeeds to write. -/
theorem writes_of_readsStatus
    (hSlot : slot.Coherent i)
    {c : SlotCall}
    (hReads : c.readsStatus = true) :
    ((c.writes? env clock slot).isSome &&
        (c.run env clock slot).result.isOk) =
      c.closes env clock slot := by
  have hWrites :
      (c.writes? env clock slot).isSome =
        c.closes env clock slot := by
    rw [closes, hReads, Bool.true_and]
    rcases cases_of_readsStatus hReads with rfl | rfl
    · simp only [writes?]
      cases Imu.closes env.config clock.now slot <;> rfl
    · simp only [writes?]
      cases Imu.closes env.config clock.now slot <;> rfl
  cases hCloses : c.closes env clock slot with
  | false => rw [hWrites, hCloses, Bool.false_and]
  | true =>
      rw [hWrites, hCloses, isOk_of_closes env clock hSlot hCloses]
      rfl

/- A line that an expander lacks is neither written nor read. -/
theorem writes_of_setMode
    (number : Nat)
    (use : LineMode) :
    let c := SlotCall.line (.setMode number use)
    ((c.writes? env clock slot).isSome &&
        (c.run env clock slot).result.isOk) =
      (c.run env clock slot).result.isOk := by
  intro c
  by_cases hLine : number < lineCount
  · have hWrites :
        c.writes? env clock slot = some .expander :=
      if_pos hLine
    rw [hWrites]
    rfl
  · have hRefused :=
      (LineCall.run_of_out_of_range (c := .setMode number use)
        clock slot hLine).mapError Failure.line
    have hResult :
        (c.run env clock slot).result =
          .error (.line (.outOfRange number)) :=
      hRefused.result
    rw [hResult]
    exact Bool.and_false _

theorem length_readings
    (hSlot : slot.Coherent i)
    (c : SlotCall) :
    (c.run env clock slot).readings.length =
      c.readingCount (c.run env clock slot).result.isOk
        (c.closes env clock slot) := by
  have hLength (t : Option Instant) :
      t.toList.length = t.isSome.toNat := by
    cases t <;> rfl
  rw [(c.run_shows env clock slot).readings_eq, List.length_append,
    hLength, hLength, stamp?_isSome env clock hSlot c]
  cases c
  case motor c =>
    cases c <;> simp [firstReading?, writes?, readingCount]
  case imu c =>
    cases c
    case status =>
      rw [writes_of_readsStatus env clock hSlot rfl]
      rfl
    case isCalibrating =>
      rw [writes_of_readsStatus env clock hSlot rfl]
      rfl
    all_goals simp [firstReading?, writes?, readingCount]
  case sensor c =>
    cases c <;> simp [firstReading?, writes?, readingCount]
  case line c =>
    cases c with
    | mode number => rfl
    | setMode number use =>
        rw [writes_of_setMode]
        exact Nat.zero_add _
  all_goals simp [firstReading?, writes?, readingCount]

end Counts

/- Only status reads close windows. -/
theorem readingCount_of_not_readsStatus
    {c : SlotCall}
    (hReads : c.readsStatus = false)
    (succeeds closes other : Bool) :
    c.readingCount succeeds closes =
      c.readingCount succeeds other := by
  cases c
  case motor c => cases c <;> rfl
  case imu c => cases c <;> first | rfl | cases hReads
  case sensor c => cases c <;> rfl
  case line c => cases c <;> rfl
  all_goals rfl

end SlotCall

------------------------------------------------------------
-- Moments
------------------------------------------------------------

def Answer.isFailed : Answer → Bool
  | .failed _ => true
  | _ => false

theorem Answer.isFailed_iff
    (answer : Answer) :
    answer.isFailed = true ↔ ∃ f, answer = .failed f := by
  cases answer <;> simp [isFailed]

instance
    (outcome : Outcome) :
    Decidable outcome.Fails :=
  decidable_of_iff
    (outcome.answer.isFailed = true ∨ outcome.refusals ≠ [])
    (or_congr_left outcome.answer.isFailed_iff)

namespace Moment

variable {n m : Nat}

def succeeds
    (x : Moment n m) : Bool :=
  !decide x.outcome.Fails

/- Whether the start of a window in a slot is gone afterwards. -/
def losesWindow
    (b : Fin n)
    (i : SlotIndex)
    (x : Moment n m) : Bool :=
  (x.bench.slot b i).resetAt?.isSome &&
    (x.after.slot b i).resetAt?.isNone

/-
  How often a moment reads the clock. What runs no operation on
  any slot never does, but for the question what time it is.
-/
def readingCount
    (x : Moment n m) : Nat :=
  match x.bench.target? x.step, x.step with
  | some ((b, i), c), _ =>
      c.readingCount x.succeeds (x.losesWindow b i)
  | none, .bay _ .now => 1
  | none, _ => 0

/-
  The milliseconds by which a moment advances the clock, by
  itself or in the middle of a publication.
-/
def advanced
    (x : Moment n m) : Nat :=
  match x.bench.target? x.step with
  | some ((b, i), c) =>
      (c.advance? (x.bench.slot b i)).elim 0 Duration.wholeMillis
  | none => x.step.advanced

section Counts

variable {x : Moment n m} {b : Fin n} {i : SlotIndex}
variable {c : SlotCall}

theorem succeeds_of_target?
    (hTarget : x.bench.target? x.step = some ((b, i), c)) :
    x.succeeds =
      (c.run (x.bench.env b) x.bench.clock
        (x.bench.slot b i)).result.isOk := by
  have hFailed := (Bench.runs_of_target? hTarget).failed
  cases hResult :
      (c.run (x.bench.env b) x.bench.clock
        (x.bench.slot b i)).result with
  | error e =>
      have hFails : x.outcome.Fails := hFailed.mpr ⟨e, hResult⟩
      rw [succeeds, decide_eq_true hFails]
      rfl
  | ok value =>
      have hNot : ¬ x.outcome.Fails := by
        intro hFails
        rcases hFailed.mp hFails with ⟨e, hError⟩
        cases hResult.symm.trans hError
      rw [succeeds, decide_eq_false hNot]
      rfl

theorem losesWindow_of_readsStatus
    (hCall : x.callOn? b i = some c)
    (hReads : c.readsStatus = true) :
    x.losesWindow b i =
      c.closes (x.bench.env b) x.bench.clock
        (x.bench.slot b i) := by
  rw [losesWindow, slot_after hCall,
    SlotCall.resetAt?_status _ _ _ hReads]
  cases hCloses :
      c.closes (x.bench.env b) x.bench.clock
        (x.bench.slot b i) with
  | false => cases (x.bench.slot b i).resetAt? <;> rfl
  | true =>
      rcases SlotCall.exists_of_closes _ _ _ hCloses with
        ⟨s, start, hState, hReset, hOver⟩
      rw [Slot.resetAt?_of_state hState, hReset]
      rfl

theorem length_readings_of_target?
    (hBench : x.bench.Coherent)
    (hTarget : x.bench.target? x.step = some ((b, i), c)) :
    x.outcome.readings.length =
      c.readingCount x.succeeds (x.losesWindow b i) := by
  have hCall : x.callOn? b i = some c :=
    (x.bench.callOn?_eq_some_iff b i x.step c).mpr hTarget
  have hReadings := (Bench.runs_of_target? hTarget).readings
  rw [outcome, hReadings, succeeds_of_target? hTarget,
    c.length_readings _ _ (hBench b i)]
  cases hReads : c.readsStatus with
  | true => rw [losesWindow_of_readsStatus hCall hReads]
  | false =>
      exact SlotCall.readingCount_of_not_readsStatus hReads _ _ _

theorem length_readings
    (hBench : x.bench.Coherent) :
    x.outcome.readings.length = x.readingCount := by
  unfold readingCount
  split
  · rename_i b i c hTarget
    exact length_readings_of_target? hBench hTarget
  · rename_i hTarget hStep
    rw [outcome, (Bench.step_takes_of_target? hTarget).1, hStep]
    rfl
  · rename_i hTarget hOther
    rw [outcome, (Bench.step_takes_of_target? hTarget).1,
      Bench.idleReadings]
    · rfl
    · exact hOther

/- The readings are what the clock shows, one after another. -/
theorem readings_eq
    (hBench : x.bench.Coherent) :
    x.outcome.readings = x.bench.clock.shown x.readingCount := by
  rw [← length_readings hBench]
  cases hTarget : x.bench.target? x.step with
  | some target => exact (Bench.step_takes hTarget).1
  | none =>
      rw [outcome, (Bench.step_takes_of_target? hTarget).1]
      unfold Bench.idleReadings
      split <;> rfl

------------------------------------------------------------
-- Clocks that tick
------------------------------------------------------------

variable {tick : Duration}

theorem toNat_now_idleClock
    {clock : Clock}
    {s : Step n m}
    (hTicks : clock.drift = fun t => t.advance tick)
    (hUnset : s.setsClock = false) :
    (Bench.idleClock clock s).now.toNat =
      min Instant.last
        (clock.now.toNat + s.advanced +
          tick.wholeMillis * (Bench.idleReadings clock s).length) := by
  have hSame :
      clock.now.toNat =
        min Instant.last
          (clock.now.toNat + 0 + tick.wholeMillis * 0) :=
    (Nat.min_eq_right clock.now.toNat_le_last).symm
  cases s with
  | clock c =>
      cases c with
      | set t => cases hUnset
      | advance d => exact clock.now.toNat_advance d
  | bay b c =>
      cases c with
      | now => exact Clock.toNat_drifted hTicks 1
      | count => exact hSame
      | countByType t => exact hSame
      | status => exact hSame
      | indices => exact hSame
      | config => exact hSame
      | describe => exact hSame
  | owner c => exact hSame
  | slot b i c => exact hSame
  | copy b i c => exact hSame
  | relation b i c => exact hSame
  | surface t c => exact hSame
  | device t h c => exact hSame

/-
  Each reading of a moment makes the clock tick, and then it
  may be advanced.
-/
theorem toNat_now_after
    (x : Moment n m)
    (hBench : x.bench.Coherent)
    (hTicks : x.bench.clock.drift = fun t => t.advance tick)
    (hUnset : x.step.setsClock = false) :
    x.after.clock.now.toNat =
      min Instant.last
        (x.bench.clock.now.toNat + x.advanced +
          tick.wholeMillis * x.readingCount) := by
  rw [← length_readings hBench, advanced]
  cases hTarget : x.bench.target? x.step with
  | none =>
      have hTakes := Bench.step_takes_of_target? hTarget
      rw [after, outcome, hTakes.1, hTakes.2]
      exact toNat_now_idleClock hTicks hUnset
  | some target =>
      rcases target with ⟨⟨b, i⟩, c⟩
      have hClock := (Bench.step_takes hTarget).2
      have hTicked :=
        Clock.toNat_drifted hTicks x.outcome.readings.length
      cases hAdvance : c.advance? (x.bench.slot b i) with
      | none =>
          rw [hAdvance] at hClock
          rw [after, hClock]
          simp only [hAdvance, Option.elim_none]
          exact hTicked
      | some d =>
          rw [hAdvance] at hClock
          have hAdvanced :=
            (x.bench.clock.drifted
              x.outcome.readings.length).now.toNat_advance d
          rw [hTicked] at hAdvanced
          rw [after, hClock]
          refine hAdvanced.trans ?_
          simp only [hAdvance, Option.elim_some]
          omega

end Counts

end Moment

------------------------------------------------------------
-- Runs
------------------------------------------------------------

namespace Bench

variable {n m : Nat} {bench : Bench n m}

theorem toNat_now_run
    {tick : Duration}
    {steps : List (Step n m)}
    (hReach : bench.Reachable)
    (hTicks : bench.clock.drift = fun t => t.advance tick)
    (hUnset : ∀ s ∈ steps, s.setsClock = false) :
    (bench.run steps).1.clock.now.toNat =
      min Instant.last
        (bench.clock.now.toNat +
          ((bench.moments steps).map Moment.advanced).sum +
          tick.wholeMillis *
            ((bench.moments steps).map Moment.readingCount).sum) := by
  induction steps generalizing bench with
  | nil => exact (Nat.min_eq_right bench.clock.now.toNat_le_last).symm
  | cons s rest ih =>
      let x : Moment n m := ⟨bench, s⟩
      have hFirst :
          (bench.step s).1.clock.now.toNat =
            min Instant.last
              (bench.clock.now.toNat + x.advanced +
                tick.wholeMillis * x.readingCount) :=
        x.toNat_now_after hReach.coherent hTicks
          (hUnset s (List.mem_cons_self ..))
      have hRest :=
        ih (hReach.step s) ((bench.step_drift s).trans hTicks)
          (fun t hMember =>
            hUnset t (List.mem_cons_of_mem _ hMember))
      have hMoments :
          bench.moments (s :: rest) =
            x :: (bench.step s).1.moments rest :=
        rfl
      rw [hMoments, List.map_cons, List.map_cons, List.sum_cons,
        List.sum_cons, Nat.mul_add]
      refine hRest.trans ?_
      rw [hFirst]
      -- Once the clock is at its end, it stays there.
      omega

/-
  Each moment of a history takes as many readings as are listed
  for it, one after another from the clock. From there on, if
  the clock ticks once a reading, a run that does not set it
  ends at the time that it began at, with all its advances and
  a tick for each of its readings added, or at the end of the
  clock.
-/
theorem readings_are_counted
    {past : List (Moment n m)}
    (hPast : History past bench) :
    (∀ x ∈ past,
      x.outcome.readings.length = x.readingCount ∧
      x.outcome.readings = x.bench.clock.shown x.readingCount) ∧
    ∀ (tick : Duration) (steps : List (Step n m)),
      (bench.clock.drift = fun t => t.advance tick) →
      (∀ s ∈ steps, s.setsClock = false) →
        (bench.run steps).1.clock.now.toNat =
          min Instant.last
            (bench.clock.now.toNat +
              ((bench.moments steps).map Moment.advanced).sum +
              tick.wholeMillis *
                ((bench.moments steps).map
                  Moment.readingCount).sum) := by
  constructor
  · intro x hMember
    have hBench := hPast.coherent_of_mem hMember
    exact ⟨Moment.length_readings hBench, Moment.readings_eq hBench⟩
  · intro tick steps hTicks hUnset
    exact toNat_now_run hPast.reachable hTicks hUnset

/-
  A calibration that ends while a state is published, and what
  is refused on the way: eight readings in all.
-/
def timed
    (b : Fin n) : List (Step n m) :=
  [.slot b 3 (.presence (.plugIn .imu)),
    .slot b 3 (.imu .reset),
    .slot b 3 (.imu .status),
    .slot b 3 (.publish .imu (fun s => s) (some ⟨3000999999⟩)),
    .slot b 3 (.imu .isCalibrating),
    .slot b 4 (.imu .reset),
    .slot b 4 (.motor (.tell .resetPosition)),
    .slot b 32 (.imu .status),
    .bay b .now]

theorem readings_are_counted_timed :
    let origin : Bench 1 1 :=
      fresh (.ticking ⟨5⟩ (.ofMillis 2)) (Vector.replicate 1 {})
        #v[0]
    let past := origin.moments (timed 0)
    past.map Moment.readingCount = [0, 2, 1, 1, 2, 1, 0, 0, 1] ∧
    (∀ x ∈ past, x.outcome.readings.length = x.readingCount) ∧
    (origin.run (timed 0)).1.clock.now.toNat =
      5 + 3000 + 2 * 8 := by
  intro origin past
  have hOrigin : History [] origin := History.fresh _ _ _
  have hPast : History past (origin.run (timed 0)).1 :=
    hOrigin.run (timed 0)
  have hCounts :
      past.map Moment.readingCount =
        [0, 2, 1, 1, 2, 1, 0, 0, 1] := by
    decide +kernel
  have hAdvanced : (past.map Moment.advanced).sum = 3000 := by
    decide +kernel
  have hTime :=
    (readings_are_counted hOrigin).2 (.ofMillis 2) (timed 0) rfl
      (by decide +kernel)
  rw [hCounts, hAdvanced] at hTime
  refine ⟨hCounts, ?_, hTime.trans (by decide +kernel)⟩
  intro x hMember
  exact ((readings_are_counted hPast).1 x hMember).1

end Bench

end DeviceBay
