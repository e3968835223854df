import DeviceBay.Bench.Value

/-
  This file defines every operation that is addressed to one
  slot. Such an operation depends on that slot alone, on the
  clock, the settings of the bay and the owners of tuning
  constants, and it changes no other slot.

  Key definitions include:
    * `PresenceCall`
    * `HandleCall`
    * `MotorCall`
    * `ImuCall`
    * `SensorCall`
    * `LinkCall`
    * `SlotCall`
    * `SlotCall.run`
-/

namespace DeviceBay

------------------------------------------------------------
-- Presence
------------------------------------------------------------

/- A change of what is in a slot. -/
inductive PresenceCall
  | install (t : Option DeviceType)
  | connect
  | disconnect
  | plugIn (t : DeviceType)
deriving DecidableEq

namespace PresenceCall

def apply
    (slot : Slot) : PresenceCall → Slot
  | .install t => slot.install t
  | .connect => slot.connect
  | .disconnect => slot.disconnect
  | .plugIn t => slot.plugIn t

def event
    (slot : Slot) : PresenceCall → Event
  | .install t => .installed slot.index t
  | .connect => .connected slot.index slot.deviceType
  | .disconnect => .disconnected slot.index slot.deviceType
  | .plugIn t => .pluggedIn slot.index t

end PresenceCall

------------------------------------------------------------
-- Handles
------------------------------------------------------------

/- A question to the handle of a slot, which no guard stops. -/
inductive HandleCall
  | index
  | timestamp
  | connectedType
  | stateType
  | copy
  | config
deriving DecidableEq

def HandleCall.answer
    (env : Env)
    (slot : Slot) : HandleCall → Value
  | .index => .nat slot.index.val
  | .timestamp => .instant slot.timestamp
  | .connectedType => .deviceType slot.connectedType
  | .stateType => .deviceType slot.state.deviceType?
  | .copy => .slot slot
  | .config => .config env.config

------------------------------------------------------------
-- Drivers
------------------------------------------------------------

inductive MotorCall
  | ask (q : MotorQuery)
  | tell (c : MotorCommand)
  | ignored (c : MotorIgnored)
deriving DecidableEq

def MotorCall.run
    (env : Env)
    (clock : Clock)
    (slot : Slot) : MotorCall → Reply SlotError Value
  | .ask q => .still slot clock ((q.ask env slot).map q.value)
  | .tell c => (c.run env clock slot).map (fun _ => .unit)
  | .ignored c => (c.run clock slot).map c.value

inductive ImuCall
  | ask (q : ImuQuery)
  | quaternion
  | mode
  | reset
  | status
  | isCalibrating
  | ignored (c : ImuIgnored)
deriving DecidableEq

def ImuCall.run
    (env : Env)
    (clock : Clock)
    (slot : Slot) : ImuCall → Reply SlotError Value
  | .ask q => .still slot clock ((q.ask slot).map q.value)
  | .quaternion =>
      .still slot clock ((Imu.quaternion slot).map Value.ofVector4)
  | .mode =>
      .still slot clock
        ((Imu.mode slot).map (fun word => .nat word.toNat))
  | .reset => (Imu.reset clock slot).map (fun _ => .unit)
  | .status =>
      (Imu.status env.config clock slot).map
        (fun status => .nat status.bits.toNat)
  | .isCalibrating =>
      (Imu.isCalibrating env.config clock slot).map .bool
  | .ignored c => (c.run clock slot).map (fun _ => .unit)

inductive SensorCall
  | rotationPosition
  | setRotationPosition (position : Binary64)
  | resetRotationPosition
  | distance
  | optical (q : OpticalQuery)
  | gps (q : GpsQuery)
  | setGpsOffset (offset : Point)
deriving DecidableEq

def SensorCall.run
    (clock : Clock)
    (slot : Slot) : SensorCall → Reply SlotError Value
  | .rotationPosition =>
      .still slot clock ((Rotation.ask slot).map .float)
  | .setRotationPosition position =>
      (Rotation.setPosition clock slot position).map (fun _ => .unit)
  | .resetRotationPosition =>
      (Rotation.resetPosition clock slot).map (fun _ => .unit)
  | .distance =>
      .still slot clock ((Distance.ask slot).map .float)
  | .optical q => .still slot clock ((q.ask slot).map q.value)
  | .gps q => .still slot clock ((q.ask slot).map q.value)
  | .setGpsOffset offset =>
      (Gps.setOffset clock slot offset).map (fun _ => .unit)

inductive LineCall
  | mode (line : Nat)
  | setMode (line : Nat) (use : LineMode)
deriving DecidableEq

def LineCall.run
    (clock : Clock)
    (slot : Slot) : LineCall → Reply LineError Value
  | .mode line =>
      .still slot clock ((Expander.lineMode slot line).map .lineMode)
  | .setMode line use =>
      (Expander.setLineMode clock slot line use).map (fun _ => .unit)

/- What is asked of a link once it is open. -/
inductive LinkCall
  | check (q : DriverCheck)
  | radio (c : RadioCall)
deriving DecidableEq

namespace LinkCall

def result
    (slot : Slot) : LinkCall → Except Failure Value
  | .check q => ((q.ask .radio slot).map q.value).mapError .slot
  | .radio c => (c.answer.map c.value).mapError .transfer

def events
    (slot : SlotIndex) : LinkCall → List Event
  | .check _ => []
  | .radio c => c.events slot

end LinkCall

------------------------------------------------------------
-- All operations on a slot
------------------------------------------------------------

inductive SlotCall
  | presence (c : PresenceCall)
  | handle (c : HandleCall)
  | validate (expected : DeviceType)
  | peek (k : Kind)
  | publish
      (k : Kind)
      (edit : k.State → k.State)
      (meanwhile : Option Duration)
  | check (expected : DeviceType) (q : DriverCheck)
  | motor (c : MotorCall)
  | imu (c : ImuCall)
  | sensor (c : SensorCall)
  | line (c : LineCall)
  | link (id : String) (role : LinkRole) (c : LinkCall)

def SlotCall.run
    (env : Env)
    (clock : Clock)
    (slot : Slot) : SlotCall → Reply Failure Value
  | .presence c =>
      { result := .ok .unit
        slot := c.apply slot
        clock := clock
        events := [c.event slot] }
  | .handle c => .still slot clock (.ok (c.answer env slot))
  | .validate expected =>
      .still slot clock
        (((slot.validate expected).map (fun _ => Value.unit)).mapError
          .slot)
  | .peek k =>
      .still slot clock
        ((slot.look k
            (fun state t => Value.stamped (.of k state) t)).mapError
          .slot)
  | .publish k edit meanwhile =>
      ((slot.publish clock k edit meanwhile).map
        (fun _ => Value.unit)).mapError .slot
  | .check expected q =>
      .still slot clock
        (((q.ask expected slot).map q.value).mapError .slot)
  | .motor c => (c.run env clock slot).mapError .slot
  | .imu c => (c.run env clock slot).mapError .slot
  | .sensor c => (c.run clock slot).mapError .slot
  | .line c => (c.run clock slot).mapError .line
  | .link id role c =>
      { result := c.result slot
        slot := slot
        clock := clock
        events := openLink slot.index id role ++ c.events slot.index }

end DeviceBay
