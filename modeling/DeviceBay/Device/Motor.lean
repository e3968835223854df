import DeviceBay.Binary64.Integral
import DeviceBay.Device.MotorSetting
import DeviceBay.Device.Tuning

/-
  This file defines the registers of a simulated motor. The
  registers of a motor that was just installed are all zero.

  Key definitions include:
    * `Motor`
    * `Motor.eqv`
    * `Motor.isOverTemperature`
    * `Motor.rawPosition`
-/

namespace DeviceBay

structure Motor where
  brakeMode : BrakeMode := .coast
  controlMode : ControlMode := .off
  encoderUnits : EncoderUnits := .degrees
  gearset : Gearset := .red
  positionTuning : TuningRef := none
  velocityTuning : TuningRef := none
  velocityTarget : Int32 := 0
  velocityMax : Int32 := 0
  current : Int32 := 0
  currentMax : Int32 := 0
  voltage : Int32 := 0
  voltageMax : Int32 := 0
  position : Binary64 := .zero
  positionTarget : Binary64 := .zero
  velocity : Binary64 := .zero
  power : Binary64 := .zero
  torque : Binary64 := .zero
  efficiency : Binary64 := .zero
  temperature : Binary64 := .zero
  faults : MotorFaults := .empty
  flags : MotorFlags := .empty
deriving DecidableEq

namespace Motor

/-
  Equality of registers: numbers are compared as values, and
  references to tuning constants by what they refer to.
-/
def eqv
    (a b : Motor) : Bool :=
  a.brakeMode == b.brakeMode &&
    a.controlMode == b.controlMode &&
    a.encoderUnits == b.encoderUnits &&
    a.gearset == b.gearset &&
    a.positionTuning == b.positionTuning &&
    a.velocityTuning == b.velocityTuning &&
    a.velocityTarget == b.velocityTarget &&
    a.velocityMax == b.velocityMax &&
    a.current == b.current &&
    a.currentMax == b.currentMax &&
    a.voltage == b.voltage &&
    a.voltageMax == b.voltageMax &&
    a.position.eqv b.position &&
    a.positionTarget.eqv b.positionTarget &&
    a.velocity.eqv b.velocity &&
    a.power.eqv b.power &&
    a.torque.eqv b.torque &&
    a.efficiency.eqv b.efficiency &&
    a.temperature.eqv b.temperature &&
    a.faults == b.faults &&
    a.flags == b.flags

------------------------------------------------------------
-- Derived readings
------------------------------------------------------------

/- Whether the motor is warmer than a limit. -/
def isOverTemperature
    (limit : Binary64)
    (m : Motor) : Bool :=
  limit.less m.temperature

def isReversed
    (m : Motor) : Bool :=
  m.flags.contains MotorFlags.reverse

def direction
    (m : Motor) : Direction :=
  Direction.ofReversed m.isReversed

/- The position as a whole number. -/
def rawPosition
    (m : Motor) : Int32 :=
  m.position.toInt32

------------------------------------------------------------
-- Changes
------------------------------------------------------------

def setReversed
    (reversed : Bool)
    (m : Motor) : Motor :=
  { m with flags := m.flags.insertIf MotorFlags.reverse reversed }

/- Sets the target of a profiled movement and its top speed. -/
def setTarget
    (position : Binary64)
    (velocity : Int32)
    (m : Motor) : Motor :=
  { m with positionTarget := position, velocityMax := velocity }

end Motor

end DeviceBay
