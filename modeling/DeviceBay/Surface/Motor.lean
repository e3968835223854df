import DeviceBay.Surface.Basic

/-
  This file defines the raw calls on a motor.

  Key definitions include:
    * `RawMotorCall`
    * `RawMotorCall.run`
-/

namespace DeviceBay

/-
  A raw call on a motor. Settings are given and answered by
  their raw codes, and tuning constants by a name that owns
  them.
-/
inductive RawMotorCall
  | velocitySet (velocity : Int32)
  | velocityUpdate (velocity : Int32)
  | voltageSet (millivolts : Int32)
  | velocityGet
  | actualVelocityGet
  | directionGet
  | modeSet (raw : UInt8)
  | modeGet
  | pwmSet (duty : Int32)
  | pwmGet
  | currentLimitSet (milliamps : Int32)
  | currentLimitGet
  | voltageLimitSet (millivolts : Int32)
  | voltageLimitGet
  | positionTuningSet (owner : String)
  | velocityTuningSet (owner : String)
  | currentGet
  | voltageGet
  | powerGet
  | torqueGet
  | efficiencyGet
  | temperatureGet
  | overTemperatureGet
  | currentLimitFlagGet
  | faultsGet
  | zeroVelocityFlagGet
  | zeroPositionFlagGet
  | flagsGet
  | reverseFlagSet (reversed : Bool)
  | reverseFlagGet
  | encoderUnitsSet (raw : UInt8)
  | encoderUnitsGet
  | brakeModeSet (raw : UInt8)
  | brakeModeGet
  | positionSet (position : Binary64)
  | positionGet
  | positionRawGet (timestamp : UInt32)
  | positionReset
  | targetGet
  | servoTargetSet (position : Binary64)
  | absoluteTargetSet (position : Binary64) (velocity : Int32)
  | relativeTargetSet (delta : Binary64) (velocity : Int32)
  | gearingSet (raw : UInt8)
  | gearingGet
  | externalProfileSet (position : Binary64) (velocity : Int32)
deriving DecidableEq

namespace RawMotorCall

------------------------------------------------------------
-- Ways to answer
------------------------------------------------------------

/- Runs a command, which answers nothing. -/
def tell
    (env : Env)
    (clock : Clock)
    (slot : Slot)
    (errno : Errno)
    (c : MotorCommand) : RawReply :=
  .settleUnit errno (c.run env clock slot)

/-
  Runs a command made from a raw code. The guard comes before
  the code is looked at.
-/
def tellDecoded
    {α : Type}
    (env : Env)
    (clock : Clock)
    (slot : Slot)
    (errno : Errno)
    (decoded : Except UnknownVariant α)
    (command : α → MotorCommand) : RawReply :=
  match slot.validate .motor with
  | .error e => .settleUnit errno (.still slot clock (.error e))
  | .ok () =>
      match decoded with
      | .error e => .reject slot clock e
      | .ok value => tell env clock slot errno (command value)

/- Answers a query with what `render` makes of its answer. -/
def ask
    (env : Env)
    (clock : Clock)
    (slot : Slot)
    (errno : Errno)
    (q : MotorQuery)
    (failure : Value)
    (render : q.Answer → Value) : RawReply :=
  .settle errno failure render (.still slot clock (q.ask env slot))

/- A signed word as a value. -/
def code
    (n : Int32) : Value :=
  .int n.toInt

/- A raw code as a value. -/
def byte
    (raw : UInt8) : Value :=
  .nat raw.toNat

/- An unsigned word as a value. -/
def word
    (n : UInt32) : Value :=
  .nat n.toNat

------------------------------------------------------------
-- Calls
------------------------------------------------------------

def run
    (env : Env)
    (clock : Clock)
    (slot : Slot)
    (errno : Errno) : RawMotorCall → RawReply
  | .velocitySet velocity =>
      tell env clock slot errno (.setVelocity velocity)
  | .velocityUpdate velocity =>
      tell env clock slot errno (.updateVelocity velocity)
  | .voltageSet millivolts =>
      tell env clock slot errno (.setVoltage millivolts)
  | .velocityGet =>
      ask env clock slot errno .velocity (code failureCode) code
  | .actualVelocityGet =>
      ask env clock slot errno .actualVelocity
        (.float failureFloat) .float
  | .directionGet =>
      ask env clock slot errno .direction (code failureCode)
        (fun direction => code direction.signum)
  | .modeSet raw =>
      tell env clock slot errno (.setMode (.ofCode raw))
  | .modeGet =>
      ask env clock slot errno .mode (byte failureByte)
        (fun mode => byte mode.code)
  | .pwmSet duty =>
      .settleUnit errno (MotorIgnored.run clock slot (.setPwm duty))
  | .pwmGet =>
      .settle errno (code failureCode) code
        (MotorIgnored.run clock slot .pwm)
  | .currentLimitSet milliamps =>
      tell env clock slot errno (.setCurrentLimit milliamps)
  | .currentLimitGet =>
      ask env clock slot errno .currentLimit (code failureCode) code
  | .voltageLimitSet millivolts =>
      tell env clock slot errno (.setVoltageLimit millivolts)
  | .voltageLimitGet =>
      ask env clock slot errno .voltageLimit (code failureCode) code
  | .positionTuningSet owner =>
      tell env clock slot errno (.setPositionTuning owner)
  | .velocityTuningSet owner =>
      tell env clock slot errno (.setVelocityTuning owner)
  | .currentGet =>
      ask env clock slot errno .current (code failureCode) code
  | .voltageGet =>
      ask env clock slot errno .voltage (code failureCode) code
  | .powerGet =>
      ask env clock slot errno .power (.float failureFloat) .float
  | .torqueGet =>
      ask env clock slot errno .torque (.float failureFloat) .float
  | .efficiencyGet =>
      ask env clock slot errno .efficiency
        (.float failureFloat) .float
  | .temperatureGet =>
      ask env clock slot errno .temperature
        (.float failureFloat) .float
  | .overTemperatureGet =>
      ask env clock slot errno .isOverTemperature
        (.bool failureFlag) .bool
  | .currentLimitFlagGet =>
      ask env clock slot errno .isCurrentLimited
        (.bool failureFlag) .bool
  | .faultsGet =>
      ask env clock slot errno .faults (word failureWord)
        (fun faults => .nat faults.bits.toNat)
  | .zeroVelocityFlagGet =>
      ask env clock slot errno .isZeroVelocity
        (.bool failureFlag) .bool
  | .zeroPositionFlagGet =>
      ask env clock slot errno .isZeroPosition
        (.bool failureFlag) .bool
  | .flagsGet =>
      ask env clock slot errno .flags (word failureWord)
        (fun flags => .nat flags.bits.toNat)
  | .reverseFlagSet reversed =>
      tell env clock slot errno (.setReversed reversed)
  | .reverseFlagGet =>
      ask env clock slot errno .isReversed (.bool failureFlag) .bool
  | .encoderUnitsSet raw =>
      tellDecoded env clock slot errno (EncoderUnits.decode raw)
        .setEncoderUnits
  | .encoderUnitsGet =>
      ask env clock slot errno .encoderUnits (byte failureByte)
        (fun units => byte units.code)
  | .brakeModeSet raw =>
      tellDecoded env clock slot errno (BrakeMode.decode raw)
        .setBrakeMode
  | .brakeModeGet =>
      ask env clock slot errno .brakeMode (byte failureByte)
        (fun mode => byte mode.code)
  | .positionSet position =>
      tell env clock slot errno (.setPosition position)
  | .positionGet =>
      ask env clock slot errno .position (.float failureFloat) .float
  | .positionRawGet timestamp =>
      ask env clock slot errno .rawPosition
        (.codedTimestamp failureCode timestamp)
        (fun reading => .codedTimestamp reading.1 reading.2.millis)
  | .positionReset =>
      tell env clock slot errno .resetPosition
  | .targetGet =>
      ask env clock slot errno .positionTarget
        (.float failureFloat) .float
  | .servoTargetSet position =>
      .settleUnit errno
        (MotorIgnored.run clock slot (.setServoTarget position))
  | .absoluteTargetSet position velocity =>
      tell env clock slot errno
        (.setPositionTarget position velocity)
  | .relativeTargetSet delta velocity =>
      tell env clock slot errno
        (.setRelativePositionTarget delta velocity)
  | .gearingSet raw =>
      tellDecoded env clock slot errno (Gearset.decode raw)
        .setGearset
  | .gearingGet =>
      ask env clock slot errno .gearset (byte failureByte)
        (fun gearset => byte gearset.code)
  | .externalProfileSet position velocity =>
      .settleUnit errno
        (MotorIgnored.run clock slot
          (.setExternalProfile position velocity))

end RawMotorCall

end DeviceBay
