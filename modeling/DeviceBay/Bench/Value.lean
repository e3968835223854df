import DeviceBay.Driver.Check
import DeviceBay.Driver.Expander
import DeviceBay.Driver.Imu
import DeviceBay.Driver.Motor
import DeviceBay.Driver.Radio
import DeviceBay.Driver.Sensor

/-
  This file defines the one type of value in which the answers
  of all operations are given, and how the answers of each
  driver become such values.

  Key definitions include:
    * `Value`
    * `MotorQuery.value`
    * `ImuQuery.value`
    * `DriverCheck.value`
    * `RadioCall.value`
-/

namespace DeviceBay

inductive Value
  | unit
  | bool (b : Bool)
  | nat (n : Nat)
  | maybeNat (n : Option Nat)
  | nats (ns : List Nat)
  | int (n : Int)
  | float (x : Binary64)
  | floats (xs : List Binary64)
  | instant (t : Instant)
  | text (s : String)
  | deviceType (t : Option DeviceType)
  | deviceTypes (ts : List (Option DeviceType))
  | config (c : Config)
  | slot (s : Slot)
  | stamped (state : DeviceState) (t : Instant)
  | comparison (slots states : Bool)
  | controlMode (mode : ControlMode)
  | brakeMode (mode : BrakeMode)
  | encoderUnits (units : EncoderUnits)
  | gearset (gearset : Gearset)
  | direction (direction : Direction)
  | orientation (orientation : Orientation)
  | lineMode (mode : LineMode)
  | stampedPosition (position : Int32) (t : Instant)
  | tuning (held : Option HeldTuning)
  | attitude (a : Attitude)
  | received (r : Received)
  | codedTimestamp (code : Int32) (timestamp : UInt32)
  | codedBytes (code : Int32) (buffer : List UInt8)

------------------------------------------------------------
-- Lists of components
------------------------------------------------------------

namespace Value

def ofVector4
    (v : Vector4) : Value :=
  .floats [v.x, v.y, v.z, v.w]

def ofColor
    (c : Color) : Value :=
  .floats [c.red, c.green, c.blue]

def ofOpticalRgb
    (c : OpticalRgb) : Value :=
  .floats [c.red, c.green, c.blue, c.brightness]

def ofPoint
    (p : Point) : Value :=
  .floats [p.x, p.y]

/- The angles in the order pitch, roll, yaw. -/
def ofAngles
    (a : Attitude) : Value :=
  .floats [a.pitch, a.roll, a.yaw]

end Value

------------------------------------------------------------
-- Answers of drivers
------------------------------------------------------------

def DriverCheck.value :
    (q : DriverCheck) → q.Answer → Value
  | .slotIndex, index => .nat index.val
  | .deviceType, t => .deviceType (some t)
  | .isConnected, b => .bool b
  | .timestamp, t => .instant t
  | .validate, _ => .unit

def MotorQuery.value :
    (q : MotorQuery) → q.Answer → Value
  | .velocity, n => .int n.toInt
  | .actualVelocity, x => .float x
  | .voltage, n => .int n.toInt
  | .positionTarget, x => .float x
  | .profileVelocity, n => .int n.toInt
  | .mode, m => .controlMode m
  | .currentLimit, n => .int n.toInt
  | .voltageLimit, n => .int n.toInt
  | .positionTuning, held => .tuning held
  | .velocityTuning, held => .tuning held
  | .current, n => .int n.toInt
  | .power, x => .float x
  | .torque, x => .float x
  | .efficiency, x => .float x
  | .temperature, x => .float x
  | .isOverTemperature, b => .bool b
  | .isCurrentLimited, b => .bool b
  | .isZeroVelocity, b => .bool b
  | .isZeroPosition, b => .bool b
  | .faults, x => .nat x.bits.toNat
  | .flags, x => .nat x.bits.toNat
  | .isReversed, b => .bool b
  | .direction, d => .direction d
  | .encoderUnits, u => .encoderUnits u
  | .brakeMode, m => .brakeMode m
  | .position, x => .float x
  | .rawPosition, (p, t) => .stampedPosition p t
  | .gearset, g => .gearset g

def MotorIgnored.value :
    (c : MotorIgnored) → c.Answer → Value
  | .setPwm _, _ => .unit
  | .pwm, duty => .int duty.toInt
  | .setServoTarget _, _ => .unit
  | .setExternalProfile _ _, _ => .unit

def ImuQuery.value :
    (q : ImuQuery) → q.Answer → Value
  | .heading, x => .float x
  | .degrees, x => .float x
  | .attitude, a => .attitude a
  | .rawGyro, v => Value.ofVector4 v
  | .rawAccel, v => Value.ofVector4 v
  | .orientation, o => .orientation o

def OpticalQuery.value :
    (q : OpticalQuery) → q.Answer → Value
  | .color, c => Value.ofColor c
  | .brightness, x => .float x
  | .rgb, c => Value.ofOpticalRgb c

def GpsQuery.value :
    (q : GpsQuery) → q.Answer → Value
  | .offset, p => Value.ofPoint p
  | .rawPosition, v => Value.ofVector4 v

def RadioCall.value :
    (c : RadioCall) → c.Answer → Value
  | .unreadBytes, n => .nat n
  | .receiveFree, n => .nat n
  | .availableWriteBytes, n => .nat n
  | .isLinked, b => .bool b
  | .flush, _ => .unit
  | .write _, n => .nat n
  | .writeAll _, _ => .unit
  | .read _, r => .received r
  | .readExact _, _ => .unit
  | .readToEnd _, r => .received r

end DeviceBay
