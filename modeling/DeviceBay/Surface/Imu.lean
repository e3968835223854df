import DeviceBay.Surface.Basic

/-
  This file defines the raw calls on an inertial sensor. Calls
  that fill a buffer are given what it held before, which it
  keeps when the call fails.

  Key definitions include:
    * `RawImuCall`
    * `RawImuCall.run`
-/

namespace DeviceBay

inductive RawImuCall
  | reset
  | headingGet
  | degreesGet
  | quaternionGet (buffer : Vector4)
  | attitudeGet (buffer : Attitude)
  | rawGyroGet (buffer : Vector4)
  | rawAccelGet (buffer : Vector4)
  | statusGet
  | modeSet (mode : UInt32)
  | modeGet
  | dataRateSet (rate : UInt32)
deriving DecidableEq

namespace RawImuCall

/- Answers a query with what `render` makes of its answer. -/
def ask
    (clock : Clock)
    (slot : Slot)
    (errno : Errno)
    (q : ImuQuery)
    (failure : Value)
    (render : q.Answer → Value) : RawReply :=
  .settle errno failure render (.still slot clock (q.ask slot))

/- The quaternion buffer is never filled. -/
def run
    (env : Env)
    (clock : Clock)
    (slot : Slot)
    (errno : Errno) : RawImuCall → RawReply
  | .reset => .settleUnit errno (Imu.reset clock slot)
  | .headingGet =>
      ask clock slot errno .heading (.float failureFloat) .float
  | .degreesGet =>
      ask clock slot errno .degrees (.float failureFloat) .float
  | .quaternionGet buffer =>
      .settle errno (Value.ofVector4 buffer)
        (fun _ => Value.ofVector4 buffer)
        (.still slot clock (Imu.quaternion slot))
  | .attitudeGet buffer =>
      ask clock slot errno .attitude (Value.ofAngles buffer)
        Value.ofAngles
  | .rawGyroGet buffer =>
      ask clock slot errno .rawGyro (Value.ofVector4 buffer)
        Value.ofVector4
  | .rawAccelGet buffer =>
      ask clock slot errno .rawAccel (Value.ofVector4 buffer)
        Value.ofVector4
  | .statusGet =>
      .settle errno (.nat failureWord.toNat)
        (fun status => .nat status.bits.toNat)
        (Imu.status env.config clock slot)
  | .modeSet mode =>
      .settleUnit errno (ImuIgnored.run clock slot (.setMode mode))
  | .modeGet =>
      .settle errno (.nat failureWord.toNat)
        (fun word => .nat word.toNat)
        (.still slot clock (Imu.mode slot))
  | .dataRateSet rate =>
      .settleUnit errno (ImuIgnored.run clock slot (.setDataRate rate))

end RawImuCall

end DeviceBay
