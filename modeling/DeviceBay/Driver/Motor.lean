import DeviceBay.Slot.Access

/-
  This file defines the driver of a motor: what a program can
  ask it, and what it can tell it to do.

  Key definitions include:
    * `MotorQuery`
    * `MotorQuery.read`
    * `MotorQuery.ask`
    * `MotorCommand`
    * `MotorCommand.mode?`
    * `MotorCommand.apply`
    * `MotorCommand.run`
    * `MotorIgnored`
-/

namespace DeviceBay

------------------------------------------------------------
-- Queries
------------------------------------------------------------

/- A question about the registers of a motor. -/
inductive MotorQuery
  | velocity
  | actualVelocity
  | voltage
  | positionTarget
  | profileVelocity
  | mode
  | currentLimit
  | voltageLimit
  | positionTuning
  | velocityTuning
  | current
  | power
  | torque
  | efficiency
  | temperature
  | isOverTemperature
  | isCurrentLimited
  | isZeroVelocity
  | isZeroPosition
  | faults
  | flags
  | isReversed
  | direction
  | encoderUnits
  | brakeMode
  | position
  | rawPosition
  | gearset
deriving DecidableEq

namespace MotorQuery

abbrev Answer : MotorQuery → Type
  | .velocity => Int32
  | .actualVelocity => Binary64
  | .voltage => Int32
  | .positionTarget => Binary64
  | .profileVelocity => Int32
  | .mode => ControlMode
  | .currentLimit => Int32
  | .voltageLimit => Int32
  | .positionTuning => Option HeldTuning
  | .velocityTuning => Option HeldTuning
  | .current => Int32
  | .power => Binary64
  | .torque => Binary64
  | .efficiency => Binary64
  | .temperature => Binary64
  | .isOverTemperature => Bool
  | .isCurrentLimited => Bool
  | .isZeroVelocity => Bool
  | .isZeroPosition => Bool
  | .faults => MotorFaults
  | .flags => MotorFlags
  | .isReversed => Bool
  | .direction => Direction
  | .encoderUnits => EncoderUnits
  | .brakeMode => BrakeMode
  | .position => Binary64
  | .rawPosition => Int32 × Instant
  | .gearset => Gearset

/- What the registers answer, given the timestamp of the slot. -/
def read
    (env : Env)
    (m : Motor)
    (stamp : Instant) :
    (q : MotorQuery) → q.Answer
  | .velocity => m.velocityTarget
  | .actualVelocity => m.velocity
  | .voltage => m.voltage
  | .positionTarget => m.positionTarget
  | .profileVelocity => m.velocityMax
  | .mode => m.controlMode
  | .currentLimit => m.currentMax
  | .voltageLimit => m.voltageMax
  | .positionTuning => env.owners.held? m.positionTuning
  | .velocityTuning => env.owners.held? m.velocityTuning
  | .current => m.current
  | .power => m.power
  | .torque => m.torque
  | .efficiency => m.efficiency
  | .temperature => m.temperature
  | .isOverTemperature => m.isOverTemperature env.config.temperatureLimit
  | .isCurrentLimited => m.flags.contains MotorFlags.currentLimit
  | .isZeroVelocity => m.flags.contains MotorFlags.zeroVelocity
  | .isZeroPosition => m.flags.contains MotorFlags.zeroPosition
  | .faults => m.faults
  | .flags => m.flags
  | .isReversed => m.isReversed
  | .direction => m.direction
  | .encoderUnits => m.encoderUnits
  | .brakeMode => m.brakeMode
  | .position => m.position
  | .rawPosition => (m.rawPosition, stamp)
  | .gearset => m.gearset

def ask
    (env : Env)
    (slot : Slot)
    (q : MotorQuery) : Except SlotError q.Answer :=
  slot.look .motor (fun m stamp => q.read env m stamp)

end MotorQuery

------------------------------------------------------------
-- Commands
------------------------------------------------------------

/-
  A change of the registers of a motor. Tuning constants are
  given by a name that owns them.
-/
inductive MotorCommand
  | setVelocity (rpm : Int32)
  | updateVelocity (rpm : Int32)
  | setVoltage (millivolts : Int32)
  | setPositionTarget (position : Binary64) (velocity : Int32)
  | setRelativePositionTarget (delta : Binary64) (velocity : Int32)
  | setMode (mode : ControlMode)
  | setCurrentLimit (milliamps : Int32)
  | setVoltageLimit (millivolts : Int32)
  | setPositionTuning (owner : String)
  | setVelocityTuning (owner : String)
  | setReversed (reversed : Bool)
  | setDirection (direction : Direction)
  | setEncoderUnits (units : EncoderUnits)
  | setBrakeMode (mode : BrakeMode)
  | setPosition (position : Binary64)
  | resetPosition
  | setGearset (gearset : Gearset)
deriving DecidableEq

namespace MotorCommand

/- The control mode that a command puts the motor into. -/
def mode? : MotorCommand → Option ControlMode
  | .setVelocity _ => some .velocity
  | .setVoltage _ => some .undefined
  | .setPositionTarget _ _ => some .profile
  | .setRelativePositionTarget _ _ => some .profile
  | .setMode mode => some mode
  | _ => none

/- What a command does to the registers besides the mode. -/
def setRegister
    (owners : Owners)
    (m : Motor) : MotorCommand → Motor
  | .setVelocity rpm => { m with velocityTarget := rpm }
  | .updateVelocity rpm => { m with velocityTarget := rpm }
  | .setVoltage millivolts => { m with voltage := millivolts }
  | .setPositionTarget position velocity =>
      m.setTarget position velocity
  | .setRelativePositionTarget delta velocity =>
      m.setTarget (m.position + delta) velocity
  | .setMode _ => m
  | .setCurrentLimit milliamps => { m with currentMax := milliamps }
  | .setVoltageLimit millivolts => { m with voltageMax := millivolts }
  | .setPositionTuning owner =>
      { m with positionTuning := owners.allocation? owner }
  | .setVelocityTuning owner =>
      { m with velocityTuning := owners.allocation? owner }
  | .setReversed reversed => m.setReversed reversed
  | .setDirection direction => m.setReversed direction.isReverse
  | .setEncoderUnits units => { m with encoderUnits := units }
  | .setBrakeMode mode => { m with brakeMode := mode }
  | .setPosition position => { m with position := position }
  | .resetPosition => { m with position := .zero }
  | .setGearset gearset => { m with gearset := gearset }

/- All that a command does to the registers. -/
def apply
    (owners : Owners)
    (c : MotorCommand)
    (m : Motor) : Motor :=
  let changed := c.setRegister owners m
  match c.mode? with
  | none => changed
  | some mode => { changed with controlMode := mode }

/- The report of a change from one control mode to another. -/
def modeEvents
    (slot : SlotIndex)
    (c : MotorCommand)
    (before : Motor) : List Event :=
  match c.mode? with
  | none => []
  | some mode =>
      if before.controlMode = mode then
        []
      else
        [.modeChanged slot before.controlMode mode]

def run
    (env : Env)
    (clock : Clock)
    (slot : Slot)
    (c : MotorCommand) : Reply SlotError Unit :=
  let reply := slot.update clock .motor (c.apply env.owners)
  (reply.report (c.modeEvents slot.index)).map (fun _ => ())

end MotorCommand

------------------------------------------------------------
-- Calls without effect
------------------------------------------------------------

/- A call that a motor accepts and does nothing about. -/
inductive MotorIgnored
  | setPwm (duty : Int32)
  | pwm
  | setServoTarget (position : Binary64)
  | setExternalProfile (position : Binary64) (velocity : Int32)
deriving DecidableEq

namespace MotorIgnored

abbrev Answer : MotorIgnored → Type
  | .pwm => Int32
  | _ => Unit

/- The duty cycle of a motor is always zero. -/
def answer : (c : MotorIgnored) → c.Answer
  | .setPwm _ => ()
  | .pwm => (0 : Int32)
  | .setServoTarget _ => ()
  | .setExternalProfile _ _ => ()

def call : MotorIgnored → IgnoredCall
  | .setPwm _ => .motorSetPwm
  | .pwm => .motorPwm
  | .setServoTarget _ => .motorSetServoTarget
  | .setExternalProfile _ _ => .motorSetExternalProfile

def run
    (clock : Clock)
    (slot : Slot)
    (c : MotorIgnored) : Reply SlotError c.Answer :=
  let result := (slot.validate .motor).map (fun _ => c.answer)
  (Reply.still slot clock result).report
    (fun _ => [.ignored slot.index c.call])

end MotorIgnored

end DeviceBay
