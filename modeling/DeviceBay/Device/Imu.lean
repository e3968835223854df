import DeviceBay.Binary64.Integral
import DeviceBay.Device.RawCode
import DeviceBay.Flags
import DeviceBay.Time.Instant

/-
  This file defines the state of a simulated inertial sensor.

  Key definitions include:
    * `Vector4`
    * `Orientation`
    * `InertialStatus`
    * `Attitude`
    * `Imu`
    * `Imu.degrees`
    * `Imu.attitude`
-/

namespace DeviceBay

/- Four components as a sensor reports them. -/
structure Vector4 where
  x : Binary64 := .zero
  y : Binary64 := .zero
  z : Binary64 := .zero
  w : Binary64 := .zero
deriving DecidableEq

namespace Vector4

def eqv
    (a b : Vector4) : Bool :=
  a.x.eqv b.x && a.y.eqv b.y && a.z.eqv b.z && a.w.eqv b.w

end Vector4

------------------------------------------------------------
-- Orientation
------------------------------------------------------------

/- The axis and side of the sensor that points up. -/
inductive Orientation
  | zUp
  | zDown
  | xUp
  | xDown
  | yUp
  | yDown
deriving DecidableEq

namespace Orientation

def all : List Orientation :=
  [.zUp, .zDown, .xUp, .xDown, .yUp, .yDown]

def code : Orientation → UInt8
  | .zUp => 0
  | .zDown => 16
  | .xUp => 32
  | .xDown => 48
  | .yUp => 64
  | .yDown => 80

def decode : UInt8 → Except UnknownVariant Orientation
  | 0 => .ok .zUp
  | 16 => .ok .zDown
  | 32 => .ok .xUp
  | 48 => .ok .xDown
  | 64 => .ok .yUp
  | 80 => .ok .yDown
  | raw => .error ⟨.orientation, raw.toNat⟩

def name : Orientation → String
  | .zUp => "ZUp"
  | .zDown => "ZDown"
  | .xUp => "XUp"
  | .xDown => "XDown"
  | .yUp => "YUp"
  | .yDown => "YDown"

end Orientation

------------------------------------------------------------
-- Status
------------------------------------------------------------

def inertialStatusLayout : FlagLayout 32 where
  title := "InertialStatus"
  named := [("CALIBRATING", 1)]
  spare := 0

abbrev InertialStatus :=
  Flags inertialStatusLayout

def InertialStatus.calibrating : InertialStatus :=
  ⟨1⟩

------------------------------------------------------------
-- Sensor state
------------------------------------------------------------

/- Rotation about the three axes of a vehicle. -/
structure Attitude where
  pitch : Binary64 := .zero
  roll : Binary64 := .zero
  yaw : Binary64 := .zero
deriving DecidableEq

/- Pitch turns about the first axis, roll about the second. -/
def Attitude.ofVector4
    (v : Vector4) : Attitude :=
  ⟨v.x, v.y, v.z⟩

/-
  What the sensor reports. While a calibration window is open,
  `resetAt` holds the reading at which it was opened.
-/
structure Imu where
  orientation : Orientation := .zUp
  rotation : Vector4 := {}
  acceleration : Vector4 := {}
  resetAt : Option Instant := none
deriving DecidableEq

namespace Imu

def eqv
    (a b : Imu) : Bool :=
  a.orientation == b.orientation &&
    a.rotation.eqv b.rotation &&
    a.acceleration.eqv b.acceleration &&
    a.resetAt == b.resetAt

/- The yaw, which counts whole turns too. -/
def heading
    (s : Imu) : Binary64 :=
  s.rotation.z

/- The yaw less its whole turns. -/
def degrees
    (s : Imu) : Binary64 :=
  s.rotation.z.remainderBy 360

def attitude
    (s : Imu) : Attitude :=
  Attitude.ofVector4 s.rotation

end Imu

end DeviceBay
