import DeviceBay.Slot.Access

/-
  This file defines the driver of an inertial sensor. A reset
  opens a calibration window, which a status read closes once
  the calibration time has passed.

  Key definitions include:
    * `ImuQuery`
    * `ImuQuery.ask`
    * `Imu.quaternion`
    * `Imu.reset`
    * `Imu.recheck`
    * `Imu.status`
    * `ImuIgnored`
-/

namespace DeviceBay

------------------------------------------------------------
-- Queries
------------------------------------------------------------

/- A question about what an inertial sensor reports. -/
inductive ImuQuery
  | heading
  | degrees
  | attitude
  | rawGyro
  | rawAccel
  | orientation
deriving DecidableEq

namespace ImuQuery

abbrev Answer : ImuQuery → Type
  | .heading => Binary64
  | .degrees => Binary64
  | .attitude => Attitude
  | .rawGyro => Vector4
  | .rawAccel => Vector4
  | .orientation => Orientation

def read
    (s : Imu) : (q : ImuQuery) → q.Answer
  | .heading => s.heading
  | .degrees => s.degrees
  | .attitude => s.attitude
  | .rawGyro => s.rotation
  | .rawAccel => s.acceleration
  | .orientation => s.orientation

def ask
    (slot : Slot)
    (q : ImuQuery) : Except SlotError q.Answer :=
  slot.look .imu (fun s _ => q.read s)

end ImuQuery

namespace Imu

/- The attitude as a quaternion is not simulated. -/
def quaternion
    (slot : Slot) : Except SlotError Vector4 :=
  (slot.validate .imu).map (fun _ => {})

/- The mode word is always zero. -/
def mode
    (slot : Slot) : Except SlotError UInt32 :=
  (slot.validate .imu).map (fun _ => 0)

------------------------------------------------------------
-- Calibration
------------------------------------------------------------

/-
  Opens a calibration window. The reading that the window
  starts at is taken before the guard.
-/
def reset
    (clock : Clock)
    (slot : Slot) : Reply SlotError Unit :=
  let (start, after) := clock.read
  let reply :=
    slot.update after .imu
      (fun s => { s with resetAt := some start })
  let reported :=
    reply.report
      (fun _ => [.calibrationStarted slot.index start])
  { reported.map (fun _ => ()) with
    readings := start :: reply.readings }

/-
  Whether a window opened at `start` is still open. A clock
  that was set back counts as no time passed.
-/
def windowOpen
    (config : Config)
    (now start : Instant) : Bool :=
  decide
    (now.saturatingDurationSince start < config.calibrationTime)

/-
  What a second look at the window comes to: the status bits,
  and whether the look closed the window.
-/
structure Recheck where
  status : InertialStatus
  finished : Bool
deriving DecidableEq

/-
  Looks at the window again, since it may have been opened anew
  after the first look, and closes it only if its time is over.
-/
def recheck
    (config : Config)
    (now : Instant)
    (s : Imu) : Imu × Recheck :=
  match s.resetAt with
  | some start =>
      if windowOpen config now start then
        (s, ⟨InertialStatus.calibrating, false⟩)
      else
        ({ s with resetAt := none }, ⟨Flags.empty, true⟩)
  | none => (s, ⟨Flags.empty, false⟩)

/- Updates a slot by a second look at its window. -/
def finish
    (config : Config)
    (now : Instant)
    (clock : Clock)
    (slot : Slot) : Reply SlotError InertialStatus :=
  let reply :=
    slot.update clock .imu (fun s => (recheck config now s).1)
  let looked := reply.map (fun s => (recheck config now s).2)
  (looked.report
    (fun found =>
      if found.finished then
        [.calibrationFinished slot.index]
      else
        [])).map
    (fun found => found.status)

/-
  The status bits. The first status read after the calibration
  time closes the window.
-/
def status
    (config : Config)
    (clock : Clock)
    (slot : Slot) : Reply SlotError InertialStatus :=
  let (now, after) := clock.read
  let reply :=
    match slot.look .imu (fun s _ => s.resetAt) with
    | .error e => Reply.still slot after (.error e)
    | .ok none => Reply.still slot after (.ok Flags.empty)
    | .ok (some start) =>
        if windowOpen config now start then
          Reply.still slot after (.ok InertialStatus.calibrating)
        else
          finish config now after slot
  { reply with readings := now :: reply.readings }

/- Whether a calibration window is open, found by a status read. -/
def isCalibrating
    (config : Config)
    (clock : Clock)
    (slot : Slot) : Reply SlotError Bool :=
  (status config clock slot).map
    (fun bits => bits.contains InertialStatus.calibrating)

end Imu

------------------------------------------------------------
-- Calls without effect
------------------------------------------------------------

/- A call that an inertial sensor accepts and does nothing about. -/
inductive ImuIgnored
  | setMode (mode : UInt32)
  | setDataRate (rate : UInt32)
deriving DecidableEq

namespace ImuIgnored

def call : ImuIgnored → IgnoredCall
  | .setMode _ => .imuSetMode
  | .setDataRate _ => .imuSetDataRate

def run
    (clock : Clock)
    (slot : Slot)
    (c : ImuIgnored) : Reply SlotError Unit :=
  (Reply.still slot clock (slot.validate .imu)).report
    (fun _ => [.ignored slot.index c.call])

end ImuIgnored

end DeviceBay
