import DeviceBay.Device.Imu

/-
  This file defines the states of the simulated sensors that
  report one or two values.

  Key definitions include:
    * `Rotation`
    * `Distance`
    * `Optical`
    * `Vision`
    * `Gps`
-/

namespace DeviceBay

------------------------------------------------------------
-- Rotation and distance
------------------------------------------------------------

/- A sensor of the angle of a shaft. -/
structure Rotation where
  position : Binary64 := .zero
deriving DecidableEq

def Rotation.eqv
    (a b : Rotation) : Bool :=
  a.position.eqv b.position

/- A sensor of the distance to an object. -/
structure Distance where
  position : Binary64 := .zero
deriving DecidableEq

def Distance.eqv
    (a b : Distance) : Bool :=
  a.position.eqv b.position

------------------------------------------------------------
-- Optical
------------------------------------------------------------

structure Color where
  red : Binary64 := .zero
  green : Binary64 := .zero
  blue : Binary64 := .zero
deriving DecidableEq

/- A color with the brightness that goes with it. -/
structure OpticalRgb where
  red : Binary64 := .zero
  green : Binary64 := .zero
  blue : Binary64 := .zero
  brightness : Binary64 := .zero
deriving DecidableEq

def OpticalRgb.ofVector4
    (v : Vector4) : OpticalRgb :=
  ⟨v.x, v.y, v.z, v.w⟩

/- A sensor of the color and brightness before it. -/
structure Optical where
  color : Color := {}
  brightness : Binary64 := .zero
deriving DecidableEq

namespace Optical

def eqv
    (a b : Optical) : Bool :=
  a.color.red.eqv b.color.red &&
    a.color.green.eqv b.color.green &&
    a.color.blue.eqv b.color.blue &&
    a.brightness.eqv b.brightness

def rgb
    (s : Optical) : OpticalRgb :=
  ⟨s.color.red, s.color.green, s.color.blue, s.brightness⟩

end Optical

------------------------------------------------------------
-- Vision and position
------------------------------------------------------------

/- A camera, of which only the presence is simulated. -/
structure Vision where
deriving DecidableEq

structure Point where
  x : Binary64 := .zero
  y : Binary64 := .zero
deriving DecidableEq

/- A sensor of the place in a field, and where it is mounted. -/
structure Gps where
  offset : Point := {}
  position : Vector4 := {}
deriving DecidableEq

def Gps.eqv
    (a b : Gps) : Bool :=
  a.offset.x.eqv b.offset.x &&
    a.offset.y.eqv b.offset.y &&
    a.position.eqv b.position

end DeviceBay
