import DeviceBay.Proofs.Slot.Effect

/-
  This file proves how operations on a slot use the clock. Each
  takes its readings one after another from the clock that it
  is given, and leaves the clock as the last of them leaves it.
  Only a publication that says so moves the clock on further.

  Key definitions include:
    * `Clock.shown`
    * `Clock.drifted`
    * `Reply.Takes`
    * `SlotCall.advance?`

  Main declarations:
    * `Clock.toNat_drifted`
    * `SlotCall.run_takes`
    * `SlotCall.run_clock`
-/

namespace DeviceBay

------------------------------------------------------------
-- Clocks that are read
------------------------------------------------------------

namespace Clock

/- What a clock shows in so many readings. -/
def shown
    (c : Clock) : Nat → List Instant
  | 0 => []
  | k + 1 => c.now :: c.read.2.shown k

/- A clock after so many readings. -/
def drifted
    (c : Clock) : Nat → Clock
  | 0 => c
  | k + 1 => c.read.2.drifted k

@[simp]
theorem drifted_drift
    (c : Clock)
    (k : Nat) :
    (c.drifted k).drift = c.drift := by
  induction k generalizing c with
  | zero => rfl
  | succ k ih => exact ih c.read.2

theorem read_snd_of_still
    {clock : Clock}
    (hStill : clock.drift = id) :
    clock.read.2 = clock := by
  cases clock
  cases hStill
  rfl

theorem drifted_of_still
    {clock : Clock}
    (hStill : clock.drift = id)
    (k : Nat) :
    clock.drifted k = clock := by
  induction k with
  | zero => rfl
  | succ k ih => rw [drifted, read_snd_of_still hStill, ih]

/- A clock that ticks once a reading, up to the end of its range. -/
theorem toNat_drifted
    {clock : Clock}
    {tick : Duration}
    (hTicks : clock.drift = fun t => t.advance tick)
    (k : Nat) :
    (clock.drifted k).now.toNat =
      min Instant.last
        (clock.now.toNat + tick.wholeMillis * k) := by
  induction k generalizing clock with
  | zero => exact (Nat.min_eq_right clock.now.toNat_le_last).symm
  | succ k ih =>
      have hFirst :
          clock.read.2.now.toNat =
            min Instant.last
              (clock.now.toNat + tick.wholeMillis) := by
        rw [← clock.now.toNat_advance tick, read, hTicks]
      have hRest :
          (clock.read.2.drifted k).now.toNat =
            min Instant.last
              (clock.read.2.now.toNat + tick.wholeMillis * k) :=
        ih hTicks
      rw [hFirst] at hRest
      rw [drifted, hRest, Nat.mul_succ]
      omega

end Clock

------------------------------------------------------------
-- Replies that read a clock
------------------------------------------------------------

/-
  A reply whose readings are taken one after another from a
  clock, which it leaves as they do, or moved on from there.
-/
structure Reply.Takes
    {ε α : Type}
    (clock : Clock)
    (meanwhile : Option Duration)
    (reply : Reply ε α) : Prop where
  readings_eq : reply.readings = clock.shown reply.readings.length
  clock_eq :
    reply.clock =
      meanwhile.elim (clock.drifted reply.readings.length)
        (clock.drifted reply.readings.length).advance

namespace Reply

variable {ε δ α β : Type}
variable {clock : Clock} {meanwhile : Option Duration}

@[simp]
theorem report_clock
    (events : α → List Event)
    (reply : Reply ε α) :
    (reply.report events).clock = reply.clock := by
  unfold report
  split <;> rfl

theorem still_takes
    (slot : Slot)
    (clock : Clock)
    (result : Except ε α) :
    (still slot clock result).Takes clock none :=
  ⟨rfl, rfl⟩

theorem Takes.map
    {reply : Reply ε α}
    (f : α → β)
    (hTakes : reply.Takes clock meanwhile) :
    (reply.map f).Takes clock meanwhile :=
  ⟨hTakes.readings_eq, hTakes.clock_eq⟩

theorem Takes.mapError
    {reply : Reply ε α}
    (f : ε → δ)
    (hTakes : reply.Takes clock meanwhile) :
    (reply.mapError f).Takes clock meanwhile :=
  ⟨hTakes.readings_eq, hTakes.clock_eq⟩

theorem Takes.report
    {reply : Reply ε α}
    (events : α → List Event)
    (hTakes : reply.Takes clock meanwhile) :
    (reply.report events).Takes clock meanwhile := by
  constructor
  · rw [report_readings]
    exact hTakes.readings_eq
  · rw [report_readings, report_clock]
    exact hTakes.clock_eq

end Reply

------------------------------------------------------------
-- Operations
------------------------------------------------------------

/- How far an operation moves the clock on after its readings. -/
def SlotCall.advance?
    (slot : Slot) : SlotCall → Option Duration
  | .publish k _ meanwhile =>
      match slot.stateOf k with
      | .error _ => none
      | .ok _ => meanwhile
  | _ => none

section Runs

variable (env : Env) (clock : Clock) (slot : Slot)

theorem Slot.update_takes
    (k : Kind)
    (edit : k.State → k.State) :
    (slot.update clock k edit).Takes clock none := by
  cases hState : slot.stateOf k with
  | error e =>
      simp only [update, hState]
      exact Reply.still_takes slot clock _
  | ok before =>
      rw [update_of_state clock edit hState]
      exact ⟨rfl, rfl⟩

theorem Imu.reset_takes :
    (Imu.reset clock slot).Takes clock none := by
  cases hState : slot.stateOf .imu with
  | error e =>
      rw [reset_of_error clock hState]
      exact ⟨rfl, rfl⟩
  | ok s =>
      rw [reset_of_state clock hState]
      exact ⟨rfl, rfl⟩

theorem Imu.status_takes
    (config : Config) :
    (Imu.status config clock slot).Takes clock none := by
  cases hState : slot.stateOf .imu with
  | error e =>
      rw [status_of_error config clock hState]
      exact ⟨rfl, rfl⟩
  | ok s =>
      cases hReset : s.resetAt with
      | none =>
          rw [status_of_none config clock hState hReset]
          exact ⟨rfl, rfl⟩
      | some start =>
          cases hOpen : windowOpen config clock.now start with
          | true =>
              rw [status_of_open config clock hState hReset hOpen]
              exact ⟨rfl, rfl⟩
          | false =>
              rw [status_of_over config clock hState hReset hOpen]
              exact ⟨rfl, rfl⟩

theorem MotorCall.run_takes
    (c : MotorCall) :
    (c.run env clock slot).Takes clock none := by
  cases c with
  | ask q => exact Reply.still_takes slot clock _
  | tell c =>
      have hUpdate :=
        slot.update_takes clock .motor (c.apply env.owners)
      exact (hUpdate.report _).map _ |>.map _
  | ignored c =>
      have hStill :=
        Reply.still_takes slot clock
          ((slot.validate .motor).map (fun _ => c.answer))
      exact (hStill.report _).map _

theorem ImuCall.run_takes
    (c : ImuCall) :
    (c.run env clock slot).Takes clock none := by
  cases c with
  | ask q => exact Reply.still_takes slot clock _
  | quaternion => exact Reply.still_takes slot clock _
  | mode => exact Reply.still_takes slot clock _
  | reset => exact (Imu.reset_takes clock slot).map _
  | status => exact (Imu.status_takes clock slot env.config).map _
  | isCalibrating =>
      have hStatus := Imu.status_takes clock slot env.config
      exact (hStatus.map _).map _
  | ignored c =>
      have hStill :=
        Reply.still_takes slot clock (slot.validate .imu)
      exact (hStill.report _).map _

theorem SensorCall.run_takes
    (c : SensorCall) :
    (c.run clock slot).Takes clock none := by
  cases c with
  | rotationPosition => exact Reply.still_takes slot clock _
  | setRotationPosition position =>
      exact ((slot.update_takes clock .rotation _).map _).map _
  | resetRotationPosition =>
      exact ((slot.update_takes clock .rotation _).map _).map _
  | distance => exact Reply.still_takes slot clock _
  | optical q => exact Reply.still_takes slot clock _
  | gps q => exact Reply.still_takes slot clock _
  | setGpsOffset offset =>
      exact ((slot.update_takes clock .gps _).map _).map _

theorem LineCall.run_takes
    (c : LineCall) :
    (c.run clock slot).Takes clock none := by
  cases c with
  | mode line => exact Reply.still_takes slot clock _
  | setMode line use =>
      simp only [LineCall.run, Expander.setLineMode]
      split
      · have hUpdate := slot.update_takes clock .expander
          (fun s => { s with lines := s.lines.set line use })
        exact (hUpdate.map _).mapError _ |>.map _
      · exact (Reply.still_takes slot clock _).map _

theorem Slot.publish_takes
    (k : Kind)
    (edit : k.State → k.State)
    (meanwhile : Option Duration) :
    (slot.publish clock k edit meanwhile).Takes clock
      ((SlotCall.publish k edit meanwhile).advance? slot) := by
  cases hState : slot.stateOf k with
  | error e =>
      have hReply :
          slot.update clock k edit =
            .still slot clock (.error e) := by
        simp only [update, hState]
      simp only [publish, hReply, SlotCall.advance?, hState]
      exact ⟨rfl, rfl⟩
  | ok before =>
      simp only [publish, update_of_state clock edit hState,
        SlotCall.advance?, hState]
      cases meanwhile with
      | none => exact ⟨rfl, rfl⟩
      | some d => exact ⟨rfl, rfl⟩

/- Every operation takes its readings from the clock in order. -/
theorem SlotCall.run_takes
    (c : SlotCall) :
    (c.run env clock slot).Takes clock (c.advance? slot) := by
  cases c with
  | publish k edit meanwhile =>
      exact ((slot.publish_takes clock k edit meanwhile).map
        _).mapError _
  | motor c => exact (c.run_takes env clock slot).mapError _
  | imu c => exact (c.run_takes env clock slot).mapError _
  | sensor c => exact (c.run_takes clock slot).mapError _
  | line c => exact (c.run_takes clock slot).mapError _
  | presence c => exact ⟨rfl, rfl⟩
  | handle c => exact ⟨rfl, rfl⟩
  | validate expected => exact ⟨rfl, rfl⟩
  | peek k => exact ⟨rfl, rfl⟩
  | check expected q => exact ⟨rfl, rfl⟩
  | link id role c => exact ⟨rfl, rfl⟩

end Runs

/- On a clock that stands still the readings are no matter. -/
theorem SlotCall.run_clock
    {clock : Clock}
    (hStill : clock.drift = id)
    (env : Env)
    (slot : Slot)
    (c : SlotCall) :
    (c.run env clock slot).clock =
      (c.advance? slot).elim clock clock.advance := by
  rw [(c.run_takes env clock slot).clock_eq,
    Clock.drifted_of_still hStill]

end DeviceBay
