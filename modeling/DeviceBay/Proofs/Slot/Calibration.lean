import DeviceBay.Driver.Imu
import DeviceBay.Proofs.Slot.Guard

/-
  This file proves what a reset of an inertial sensor and a
  read of its status leave behind, in each of the cases that
  they tell apart: no sensor, no calibration window, a window
  that is open and a window whose time is over.

  Key definitions include:
    * `Imu.closes`

  Main declarations:
    * `Imu.reset_of_state`
    * `Imu.status_of_none`
    * `Imu.status_of_open`
    * `Imu.recheck_of_over`
    * `Imu.status_of_over`
-/

namespace DeviceBay

namespace Imu

/- Whether a status read finds a window whose time is over. -/
def closes
    (config : Config)
    (now : Instant)
    (slot : Slot) : Bool :=
  match slot.stateOf .imu with
  | .error _ => false
  | .ok s =>
      match s.resetAt with
      | none => false
      | some start => !windowOpen config now start

theorem closes_eq_true_iff
    (config : Config)
    (now : Instant)
    (slot : Slot) :
    closes config now slot = true ↔
      ∃ s start,
        slot.stateOf .imu = .ok s ∧
          s.resetAt = some start ∧
          windowOpen config now start = false := by
  unfold closes
  cases hState : slot.stateOf .imu with
  | error e => simp
  | ok s =>
      cases hReset : s.resetAt with
      | none => simp [hReset]
      | some start => simp [hReset]

theorem closes_of_error
    (config : Config)
    (now : Instant)
    {slot : Slot}
    {e : SlotError}
    (hState : slot.stateOf .imu = .error e) :
    closes config now slot = false := by
  simp only [closes, hState]

theorem closes_of_state
    (config : Config)
    (now : Instant)
    {slot : Slot}
    {s : Imu}
    (hState : slot.stateOf .imu = .ok s) :
    closes config now slot =
      s.resetAt.any (fun start => !windowOpen config now start) := by
  simp only [closes, hState]
  cases s.resetAt <;> rfl

------------------------------------------------------------
-- Reset
------------------------------------------------------------

section Replies

variable {slot : Slot} (config : Config) (clock : Clock)

/- The reading that is taken before the guard is all that happens. -/
theorem reset_of_error
    {e : SlotError}
    (hState : slot.stateOf .imu = .error e) :
    reset clock slot =
      { result := .error e
        slot := slot
        clock := clock.read.2
        readings := [clock.now] } := by
  simp only [reset, Slot.update, hState]
  rfl

/- The first reading starts the window, the second one stamps. -/
theorem reset_of_state
    {s : Imu}
    (hState : slot.stateOf .imu = .ok s) :
    reset clock slot =
      { result := .ok ()
        slot :=
          { slot with
            timestamp := clock.read.2.now
            state := .of .imu { s with resetAt := some clock.now } }
        clock := clock.read.2.read.2
        readings := [clock.now, clock.read.2.now]
        events := [.calibrationStarted slot.index clock.now] } := by
  have hUpdate :=
    Slot.update_of_state (k := .imu) clock.read.2
      (fun s => { s with resetAt := some clock.now }) hState
  simp only [reset, Clock.read_fst, hUpdate]
  rfl

------------------------------------------------------------
-- Status
------------------------------------------------------------

theorem status_of_error
    {e : SlotError}
    (hState : slot.stateOf .imu = .error e) :
    status config clock slot =
      { result := .error e
        slot := slot
        clock := clock.read.2
        readings := [clock.now] } := by
  simp only [status, Slot.look, hState]
  rfl

theorem status_of_none
    {s : Imu}
    (hState : slot.stateOf .imu = .ok s)
    (hReset : s.resetAt = none) :
    status config clock slot =
      { result := .ok Flags.empty
        slot := slot
        clock := clock.read.2
        readings := [clock.now] } := by
  simp only [status, Slot.look_of_state (k := .imu) _ hState,
    hReset]
  rfl

theorem status_of_open
    {s : Imu}
    {start : Instant}
    (hState : slot.stateOf .imu = .ok s)
    (hReset : s.resetAt = some start)
    (hOpen : windowOpen config clock.now start = true) :
    status config clock slot =
      { result := .ok InertialStatus.calibrating
        slot := slot
        clock := clock.read.2
        readings := [clock.now] } := by
  simp only [status, Slot.look_of_state (k := .imu) _ hState,
    hReset, Clock.read_fst, hOpen]
  rfl

/-
  The second look finds what the first one found, since nothing
  comes between them: the window is closed.
-/
theorem recheck_of_over
    {config : Config}
    {now start : Instant}
    {s : Imu}
    (hReset : s.resetAt = some start)
    (hOver : windowOpen config now start = false) :
    recheck config now s =
      ({ s with resetAt := none }, ⟨Flags.empty, true⟩) := by
  simp only [recheck, hReset, hOver]
  rfl

/- The read that finds the time over removes the window. -/
theorem status_of_over
    {s : Imu}
    {start : Instant}
    (hState : slot.stateOf .imu = .ok s)
    (hReset : s.resetAt = some start)
    (hOver : windowOpen config clock.now start = false) :
    status config clock slot =
      { result := .ok Flags.empty
        slot :=
          { slot with
            timestamp := clock.read.2.now
            state := .of .imu { s with resetAt := none } }
        clock := clock.read.2.read.2
        readings := [clock.now, clock.read.2.now]
        events := [.calibrationFinished slot.index] } := by
  have hUpdate :=
    Slot.update_of_state (k := .imu) clock.read.2
      (fun s => (recheck config clock.now s).1) hState
  rw [recheck_of_over hReset hOver] at hUpdate
  simp only [status, Slot.look_of_state (k := .imu) _ hState,
    hReset, Clock.read_fst, hOver, finish, hUpdate, Reply.map,
    Reply.report, Except.map, recheck_of_over hReset hOver]
  rfl

end Replies

end Imu

end DeviceBay
