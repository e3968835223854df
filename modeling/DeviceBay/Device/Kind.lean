import DeviceBay.Device.Expander
import DeviceBay.Device.Imu
import DeviceBay.Device.Motor
import DeviceBay.Device.Sensor
import DeviceBay.Device.Type

/-
  This file defines the kinds of devices that are simulated
  and the state that a device of each kind has.

  Key definitions include:
    * `Kind`
    * `Kind.State`
    * `DeviceState`
    * `DeviceState.forType`
    * `DeviceState.as?`
-/

namespace DeviceBay

------------------------------------------------------------
-- Kinds
------------------------------------------------------------

/- The device types that have a simulated state. -/
inductive Kind
  | motor
  | imu
  | rotation
  | distance
  | optical
  | vision
  | gps
  | expander
deriving DecidableEq

namespace Kind

def all : List Kind :=
  [.motor, .imu, .rotation, .distance, .optical, .vision,
    .gps, .expander]

def name : Kind → String
  | .motor => "Motor"
  | .imu => "Imu"
  | .rotation => "Rotation"
  | .distance => "Distance"
  | .optical => "Optical"
  | .vision => "Vision"
  | .gps => "Gps"
  | .expander => "Expander"

def deviceType : Kind → DeviceType
  | .motor => .motor
  | .imu => .imu
  | .rotation => .rotation
  | .distance => .distance
  | .optical => .optical
  | .vision => .vision
  | .gps => .gps
  | .expander => .adi

def ofType? : DeviceType → Option Kind
  | .motor => some .motor
  | .imu => some .imu
  | .rotation => some .rotation
  | .distance => some .distance
  | .optical => some .optical
  | .vision => some .vision
  | .gps => some .gps
  | .adi => some .expander
  | _ => none

/- The state of a device of a kind. -/
abbrev State : Kind → Type
  | .motor => Motor
  | .imu => Imu
  | .rotation => Rotation
  | .distance => Distance
  | .optical => Optical
  | .vision => Vision
  | .gps => Gps
  | .expander => Expander

/- The state of a device that was just installed. -/
def zero : (k : Kind) → k.State
  | .motor => {}
  | .imu => {}
  | .rotation => {}
  | .distance => {}
  | .optical => {}
  | .vision => {}
  | .gps => {}
  | .expander => {}

/- Equality of two states of a kind, compared as values. -/
def eqv : (k : Kind) → k.State → k.State → Bool
  | .motor, a, b => Motor.eqv a b
  | .imu, a, b => Imu.eqv a b
  | .rotation, a, b => Rotation.eqv a b
  | .distance, a, b => Distance.eqv a b
  | .optical, a, b => Optical.eqv a b
  | .vision, _, _ => true
  | .gps, a, b => Gps.eqv a b
  | .expander, a, b => decide (a = b)

@[simp]
theorem ofType?_deviceType
    (k : Kind) :
    ofType? k.deviceType = some k := by
  cases k <;> rfl

theorem ofType?_eq_some_iff
    (t : DeviceType)
    (k : Kind) :
    ofType? t = some k ↔ t = k.deviceType := by
  constructor
  · intro h
    cases t <;> simp_all [ofType?] <;> subst h <;> rfl
  · intro h
    subst h
    exact ofType?_deviceType k

end Kind

------------------------------------------------------------
-- States
------------------------------------------------------------

/- The state in a slot: none, or that of a simulated device. -/
inductive DeviceState
  | empty
  | of (kind : Kind) (state : kind.State)

namespace DeviceState

/- The state of a slot whose device was just installed. -/
def forType : Option DeviceType → DeviceState
  | none => .empty
  | some t =>
      match Kind.ofType? t with
      | none => .empty
      | some k => .of k k.zero

def deviceType? : DeviceState → Option DeviceType
  | .empty => none
  | .of k _ => some k.deviceType

/- The state as one of a kind, if it is of that kind. -/
def as?
    (k : Kind) : DeviceState → Option k.State
  | .empty => none
  | .of kind state =>
      if h : kind = k then some (h ▸ state) else none

/- Equality of two states, compared as values. -/
def eqv : DeviceState → DeviceState → Bool
  | .empty, .empty => true
  | .of k a, .of kind b =>
      if h : kind = k then k.eqv a (h ▸ b) else false
  | _, _ => false

@[simp]
theorem as?_of
    (k : Kind)
    (state : k.State) :
    (DeviceState.of k state).as? k = some state := by
  simp [as?]

theorem eq_of_as?_eq_some
    {s : DeviceState}
    {k : Kind}
    {state : k.State}
    (h : s.as? k = some state) :
    s = .of k state := by
  cases s with
  | empty => simp [as?] at h
  | of kind inner =>
      by_cases hKind : kind = k
      · subst hKind
        simp_all [as?]
      · simp [as?, hKind] at h

end DeviceState

end DeviceBay
