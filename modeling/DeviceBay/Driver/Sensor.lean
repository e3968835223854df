import DeviceBay.Slot.Access

/-
  This file defines the drivers of the sensors that report one
  or two values.

  Key definitions include:
    * `Rotation.ask`
    * `Rotation.setPosition`
    * `Distance.ask`
    * `OpticalQuery`
    * `GpsQuery`
    * `Gps.setOffset`
-/

namespace DeviceBay

------------------------------------------------------------
-- Rotation and distance
------------------------------------------------------------

namespace Rotation

def ask
    (slot : Slot) : Except SlotError Binary64 :=
  slot.look .rotation (fun s _ => s.position)

def setPosition
    (clock : Clock)
    (slot : Slot)
    (position : Binary64) : Reply SlotError Unit :=
  (slot.update clock .rotation
    (fun s => { s with position := position })).map
    (fun _ => ())

def resetPosition
    (clock : Clock)
    (slot : Slot) : Reply SlotError Unit :=
  setPosition clock slot .zero

end Rotation

namespace Distance

def ask
    (slot : Slot) : Except SlotError Binary64 :=
  slot.look .distance (fun s _ => s.position)

end Distance

------------------------------------------------------------
-- Optical
------------------------------------------------------------

/- A question about what an optical sensor reports. -/
inductive OpticalQuery
  | color
  | brightness
  | rgb
deriving DecidableEq

namespace OpticalQuery

abbrev Answer : OpticalQuery → Type
  | .color => Color
  | .brightness => Binary64
  | .rgb => OpticalRgb

def read
    (s : Optical) : (q : OpticalQuery) → q.Answer
  | .color => s.color
  | .brightness => s.brightness
  | .rgb => s.rgb

def ask
    (slot : Slot)
    (q : OpticalQuery) : Except SlotError q.Answer :=
  slot.look .optical (fun s _ => q.read s)

end OpticalQuery

------------------------------------------------------------
-- Position in a field
------------------------------------------------------------

/- A question about what a position sensor reports. -/
inductive GpsQuery
  | offset
  | rawPosition
deriving DecidableEq

namespace GpsQuery

abbrev Answer : GpsQuery → Type
  | .offset => Point
  | .rawPosition => Vector4

def read
    (s : Gps) : (q : GpsQuery) → q.Answer
  | .offset => s.offset
  | .rawPosition => s.position

def ask
    (slot : Slot)
    (q : GpsQuery) : Except SlotError q.Answer :=
  slot.look .gps (fun s _ => q.read s)

end GpsQuery

namespace Gps

def setOffset
    (clock : Clock)
    (slot : Slot)
    (offset : Point) : Reply SlotError Unit :=
  (slot.update clock .gps
    (fun s => { s with offset := offset })).map
    (fun _ => ())

end Gps

end DeviceBay
