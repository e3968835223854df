import DeviceBay.Proofs.Bench.CalibrationEnd
import DeviceBay.Proofs.Bench.Padding

/-
  This file proves how long a calibration window lasts on a
  clock that moves only when it is told to. The window is over
  once the clock was advanced by the calibration time, whatever
  the advances drop below a millisecond, unless the clock comes
  to its end before: it stops there, and so does the window.

  Key definitions include:
    * `Step.advanced`
    * `Step.advancedBy`
    * `Step.setsClock`
    * `Bench.Waited`

  Main declarations:
    * `Bench.le_step_now`
    * `Bench.Waited.step`
    * `Bench.Waited.run`
    * `Bench.Waited.windowOpen_iff`
    * `Bench.window_after_reset`
    * `Bench.calibration_ends_within_the_clock`
    * `Bench.calibration_outlasts_the_clock`
-/

namespace DeviceBay

------------------------------------------------------------
-- Steps of the clock
------------------------------------------------------------

namespace Step

variable {n m : Nat}

/- The milliseconds by which a step advances the clock. -/
def advanced : Step n m → Nat
  | .clock (.advance d) => d.wholeMillis
  | _ => 0

/- The milliseconds by which the steps of a run advance the clock. -/
def advancedBy : List (Step n m) → Nat
  | [] => 0
  | s :: rest => s.advanced + advancedBy rest

def setsClock : Step n m → Bool
  | .clock (.set _) => true
  | _ => false

end Step

namespace Bench

variable {n m : Nat}

/-
  A clock that stands still between its steps only goes
  forward if it is not set, as far as its range goes. A step on
  a slot may move it on further.
-/
theorem le_step_now
    {bench : Bench n m}
    {s : Step n m}
    (hStill : bench.clock.drift = id)
    (hUnset : s.setsClock = false) :
    min Instant.last (bench.clock.now.toNat + s.advanced) ≤
      (bench.step s).1.clock.now.toNat := by
  have hSame :
      min Instant.last (bench.clock.now.toNat + 0) ≤
        bench.clock.now.toNat :=
    Nat.min_le_right _ _
  cases hTarget : bench.target? s with
  | some target =>
      rcases target with ⟨⟨d, j⟩, c⟩
      have hAdvanced : s.advanced = 0 := by
        cases s <;> first | rfl | cases hTarget
      rw [step_clock_of_target hStill hTarget, hAdvanced]
      -- Only a publication can move the clock, and only forward.
      cases c.advance? (bench.slot d j) with
      | none => exact hSame
      | some span =>
          have hAfter := bench.clock.now.toNat_advance span
          have hLast := bench.clock.now.toNat_le_last
          simp only [Option.elim_some, Clock.advance, hAfter]
          omega
  | none =>
      rw [step_clock_of_target? hTarget]
      cases s with
      | clock c =>
          cases c with
          | set t => cases hUnset
          | advance span =>
              exact (bench.clock.now.toNat_advance span).ge
      | bay d c =>
          cases c with
          | now =>
              have hRead := Clock.read_snd_of_still hStill
              simp only [idleClock, hRead]
              exact hSame
          | count => exact hSame
          | countByType t => exact hSame
          | status => exact hSame
          | indices => exact hSame
          | config => exact hSame
          | describe => exact hSame
      | owner c => exact hSame
      | slot d j c => exact hSame
      | copy d j c => exact hSame
      | relation d j c => exact hSame
      | surface t c => exact hSame
      | device t h c => exact hSame

------------------------------------------------------------
-- Waiting
------------------------------------------------------------

/-
  A bench some time after another: nothing happened to a slot,
  and the clock has moved on by so many milliseconds at least,
  or is at its end.
-/
structure Waited
    (b : Fin n)
    (i : SlotIndex)
    (start : Bench n m)
    (millis : Nat)
    (bench : Bench n m) : Prop where
  still : bench.clock.drift = id
  slot : bench.slot b i = start.slot b i
  config : (bench.bay b).config = (start.bay b).config
  now :
    min Instant.last (start.clock.now.toNat + millis) ≤
      bench.clock.now.toNat

namespace Waited

variable {b : Fin n} {i : SlotIndex} {millis : Nat}
variable {start bench : Bench n m}

theorem refl
    (hStill : start.clock.drift = id) :
    Waited b i start 0 start where
  still := hStill
  slot := rfl
  config := rfl
  now := Nat.min_le_right _ _

theorem step
    {s : Step n m}
    (hWaited : Waited b i start millis bench)
    (hAlone : bench.callOn? b i s = none)
    (hUnset : s.setsClock = false) :
    Waited b i start (millis + s.advanced) (bench.step s).1 where
  still := (bench.step_drift s).trans hWaited.still
  slot := (slot_of_callOn?_eq_none hAlone).trans hWaited.slot
  config := (bench.step_config s b).trans hWaited.config
  now := by
    have hBefore := hWaited.now
    have hStep := le_step_now hWaited.still hUnset
    omega

/- Steps that leave the slot and the clock's hands alone. -/
theorem run
    {steps : List (Step n m)}
    (hWaited : Waited b i start millis bench)
    (hAlone : ∀ x ∈ bench.moments steps, x.callOn? b i = none)
    (hUnset : ∀ s ∈ steps, s.setsClock = false) :
    Waited b i start (millis + Step.advancedBy steps)
      (bench.run steps).1 := by
  -- What was waited so far grows with each step.
  induction steps generalizing millis bench with
  | nil => exact hWaited
  | cons s rest ih =>
      have hNext :=
        hWaited.step (hAlone ⟨bench, s⟩ (List.mem_cons_self ..))
          (hUnset s (List.mem_cons_self ..))
      have hRest := ih hNext
        (fun x hMember => hAlone x (List.mem_cons_of_mem _ hMember))
        (fun t hMember => hUnset t (List.mem_cons_of_mem _ hMember))
      rw [Step.advancedBy, ← Nat.add_assoc]
      exact hRest

/-
  A window that was opened when the wait began is open after
  the calibration time only if there is not as much time left
  on the clock.
-/
theorem windowOpen_iff
    (hWaited : Waited b i start millis bench)
    (config : Config)
    (hSpan : config.calibrationTime.nanos ≤ millis * 1000000) :
    Imu.windowOpen config bench.clock.now start.clock.now = true ↔
      (Instant.last - start.clock.now.toNat) * 1000000 <
        config.calibrationTime.nanos := by
  have hNow := hWaited.now
  have hLast := bench.clock.now.toNat_le_last
  rw [Imu.windowOpen_iff]
  omega

end Waited

------------------------------------------------------------
-- The end of a window
------------------------------------------------------------

section Windows

variable {b : Fin n} {i : SlotIndex} {s : Step n m}
variable {bench : Bench n m}

/- A reset that succeeds opens a window at its first reading. -/
theorem stateOf_after_reset
    {state : Imu}
    (hReset : bench.callOn? b i s = some (.imu .reset))
    (hState : (bench.slot b i).stateOf .imu = .ok state) :
    ((bench.step s).1.slot b i).stateOf .imu =
      .ok { state with resetAt := some bench.clock.now } :=
  stateOf_of_update hReset rfl hState

theorem clock_after_reset
    (hStill : bench.clock.drift = id)
    (hReset : bench.callOn? b i s = some (.imu .reset)) :
    (bench.step s).1.clock = bench.clock :=
  step_clock_of_target hStill
    ((bench.callOn?_eq_some_iff b i s _).mp hReset)

/- A status read that finds the window over closes it. -/
theorem closes_of_over
    {q : Step n m}
    {c : SlotCall}
    {state : Imu}
    {start : Instant}
    (hState : (bench.slot b i).stateOf .imu = .ok state)
    (hWindow : state.resetAt = some start)
    (hOver :
      Imu.windowOpen (bench.bay b).config bench.clock.now start =
        false)
    (hCall : bench.callOn? b i q = some c)
    (hReads : c.readsStatus = true) :
    Moment.closes b i ⟨bench, q⟩ = true := by
  have hMoment : Moment.callOn? b i ⟨bench, q⟩ = some c := hCall
  rw [Moment.closes, hMoment, Option.any_some, SlotCall.closes,
    hReads, Bool.true_and, Imu.closes_of_state _ _ hState, hWindow]
  simp [env, hOver]

theorem StatusReads.unique
    {one other : Bool}
    (hOne : bench.StatusReads b i one)
    (hOther : bench.StatusReads b i other) :
    one = other := by
  have hAnswers := hOne.isCalibrating.symm.trans hOther.isCalibrating
  injection hAnswers with hValues
  injection hValues

/-
  The window that a reset opens is there after any wait, and is
  still open after the calibration time only if the clock was
  too near to its end.
-/
theorem window_after_reset
    {steps : List (Step n m)}
    (hReach : bench.Reachable)
    (hStill : bench.clock.drift = id)
    (hReset : bench.callOn? b i s = some (.imu .reset))
    (hType : (bench.slot b i).connectedType = some .imu)
    (hAlone :
      ∀ x ∈ (bench.step s).1.moments steps, x.callOn? b i = none)
    (hUnset : ∀ r ∈ steps, r.setsClock = false)
    (hSpan :
      (bench.bay b).config.calibrationTime.nanos ≤
        Step.advancedBy steps * 1000000) :
    let last := ((bench.step s).1.run steps).1
    ∃ state : Imu,
      (last.slot b i).stateOf .imu = .ok state ∧
      state.resetAt = some bench.clock.now ∧
      (Imu.windowOpen (last.bay b).config last.clock.now
          bench.clock.now = true ↔
        (Instant.last - bench.clock.now.toNat) * 1000000 <
          (bench.bay b).config.calibrationTime.nanos) := by
  intro last
  rcases (hReach.coherent b i).stateOf (k := .imu) hType with
    ⟨before, hState⟩
  have hStart : (bench.step s).1.clock.drift = id :=
    (bench.step_drift s).trans hStill
  have hWaited : Waited b i (bench.step s).1 _ last :=
    (Waited.refl hStart).run hAlone hUnset
  rw [Nat.zero_add] at hWaited
  refine ⟨{ before with resetAt := some bench.clock.now }, ?_, rfl,
    ?_⟩
  · rw [hWaited.slot]
    exact stateOf_after_reset hReset hState
  · have hOpen := hWaited.windowOpen_iff (bench.bay b).config hSpan
    rw [clock_after_reset hStill hReset] at hOpen
    rw [hWaited.config, bench.step_config s b]
    exact hOpen

/-
  On a clock that moves only when it is told to: after a reset
  that succeeds, and advances by the calibration time at least
  while nothing is run on the slot and the clock is not set,
  the next status read finds the calibration over and closes
  the window if and only if the calibration time is not longer
  than what was left of the clock at the reset. If it is, the
  sensor is still calibrating.
-/
theorem calibration_ends_within_the_clock
    {steps : List (Step n m)}
    (hReach : bench.Reachable)
    (hStill : bench.clock.drift = id)
    (hReset : bench.callOn? b i s = some (.imu .reset))
    (hType : (bench.slot b i).connectedType = some .imu)
    (hAlone :
      ∀ x ∈ (bench.step s).1.moments steps, x.callOn? b i = none)
    (hUnset : ∀ r ∈ steps, r.setsClock = false)
    (hSpan :
      (bench.bay b).config.calibrationTime.nanos ≤
        Step.advancedBy steps * 1000000) :
    let last := ((bench.step s).1.run steps).1
    let span := (bench.bay b).config.calibrationTime.nanos
    let left :=
      (Instant.last - bench.clock.now.toNat) * 1000000
    (span ≤ left →
      last.StatusReads b i false ∧
      ∀ q c, last.callOn? b i q = some c → c.readsStatus = true →
        Moment.ClosesWindow b i ⟨last, q⟩) ∧
    (left < span → last.StatusReads b i true) := by
  intro last span left
  rcases window_after_reset hReach hStill hReset hType hAlone
      hUnset hSpan with ⟨state, hState, hWindow, hOpen⟩
  have hReads := statusReads_of_state hState
  rw [hWindow] at hReads
  constructor
  · intro hEnds
    have hOver :
        Imu.windowOpen (last.bay b).config last.clock.now
          bench.clock.now = false := by
      rw [← Bool.not_eq_true, hOpen]
      exact hEnds.not_gt
    have hNone :
        Imu.calibrating (last.bay b).config last.clock.now
          (some bench.clock.now) = false :=
      hOver
    rw [hNone] at hReads
    refine ⟨hReads, ?_⟩
    intro q c hCall hStatus
    have hBench : last.Coherent :=
      ((hReach.step s).run steps).coherent
    exact Moment.closesWindow hBench
      (closes_of_over hState hWindow hOver hCall hStatus)
  · intro hCut
    have hStillOpen :
        Imu.calibrating (last.bay b).config last.clock.now
          (some bench.clock.now) = true :=
      hOpen.mpr hCut
    rw [hStillOpen] at hReads
    exact hReads

end Windows

/- A sensor that is plugged in and not yet reset. -/
def unreset
    (time : Instant)
    (configs : Vector Config n)
    (views : Vector (Fin n) m)
    (b : Fin n) : Bench n m :=
  ((fresh (.manual time) configs views).step
    (.slot b 3 (.presence (.plugIn .imu)))).1

/- Three seconds in two parts that both drop some nanoseconds. -/
def inParts
    (b : Fin n) : List (Step n m) :=
  [.clock (.advance ⟨1500999999⟩),
    .slot b 5 (.presence (.plugIn .motor)),
    .clock (.advance ⟨1500000001⟩)]

theorem calibration_ends_within_the_clock_in_parts :
    let bench : Bench 1 1 :=
      unreset ⟨7⟩ (Vector.replicate 1 {}) #v[0] 0
    let reset : Step 1 1 := .slot 0 3 (.imu .reset)
    let waiting : List (Step 1 1) := inParts 0
    let last := ((bench.step reset).1.run waiting).1
    (bench.slot 0 ⟨3, by decide⟩).connectedType = some .imu ∧
    last.StatusReads 0 ⟨3, by decide⟩ false ∧
    Moment.ClosesWindow 0 ⟨3, by decide⟩
      ⟨last, .slot 0 3 (.imu .status)⟩ := by
  intro bench reset waiting last
  have hReach : bench.Reachable := (Reachable.fresh _ _ _).step _
  have hReset :
      bench.callOn? 0 ⟨3, by decide⟩ reset = some (.imu .reset) :=
    bench.callOn?_slot 0 ⟨3, by decide⟩ (.imu .reset)
  have hType :
      (bench.slot 0 ⟨3, by decide⟩).connectedType = some .imu := by
    decide +kernel
  have hAlone :
      ∀ x ∈ (bench.step reset).1.moments waiting,
        x.callOn? 0 ⟨3, by decide⟩ = none := by
    decide +kernel
  have hUnset : ∀ r ∈ waiting, r.setsClock = false := by
    decide +kernel
  have hSpan :
      (bench.bay 0).config.calibrationTime.nanos ≤
        Step.advancedBy waiting * 1000000 := by
    decide +kernel
  have hLeft :
      (bench.bay 0).config.calibrationTime.nanos ≤
        (Instant.last - bench.clock.now.toNat) * 1000000 := by
    decide +kernel
  have hEnds :=
    (calibration_ends_within_the_clock hReach rfl hReset hType
      hAlone hUnset hSpan).1 hLeft
  refine ⟨hType, hEnds.1, ?_⟩
  exact hEnds.2 _ (.imu .status)
    (last.callOn?_slot 0 ⟨3, by decide⟩ _) rfl

/-
  The clock stops six milliseconds after the reset, and no
  advance makes the calibration time pass.
-/
theorem calibration_outlasts_the_clock :
    let bench : Bench 1 1 :=
      unreset ⟨4294967289⟩ (Vector.replicate 1 {}) #v[0] 0
    let reset : Step 1 1 := .slot 0 3 (.imu .reset)
    let waiting : List (Step 1 1) := inParts 0
    let last := ((bench.step reset).1.run waiting).1
    bench.Reachable ∧
    bench.clock.drift = id ∧
    bench.callOn? 0 ⟨3, by decide⟩ reset = some (.imu .reset) ∧
    (bench.slot 0 ⟨3, by decide⟩).connectedType = some .imu ∧
    (∀ x ∈ (bench.step reset).1.moments waiting,
      x.callOn? 0 ⟨3, by decide⟩ = none) ∧
    (∀ r ∈ waiting, r.setsClock = false) ∧
    (bench.bay 0).config.calibrationTime.nanos ≤
      Step.advancedBy waiting * 1000000 ∧
    ¬ last.StatusReads 0 ⟨3, by decide⟩ false := by
  intro bench reset waiting last
  have hReach : bench.Reachable := (Reachable.fresh _ _ _).step _
  have hReset :
      bench.callOn? 0 ⟨3, by decide⟩ reset = some (.imu .reset) :=
    bench.callOn?_slot 0 ⟨3, by decide⟩ (.imu .reset)
  have hType :
      (last.slot 0 ⟨3, by decide⟩).connectedType = some .imu := by
    decide +kernel
  have hOpen :
      Imu.calibrating (last.bay 0).config last.clock.now
        (last.slot 0 ⟨3, by decide⟩).resetAt? = true := by
    decide +kernel
  refine ⟨hReach, rfl, hReset, by decide +kernel, by decide +kernel,
    by decide +kernel, by decide +kernel, ?_⟩
  intro hClaim
  have hBench : last.Coherent :=
    ((hReach.step reset).run waiting).coherent
  have hReads := hBench.statusReads hType
  rw [hOpen] at hReads
  cases hReads.unique hClaim

end Bench

end DeviceBay
