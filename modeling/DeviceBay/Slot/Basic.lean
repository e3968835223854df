import DeviceBay.Device.Kind
import DeviceBay.Slot.Error

/-
  This file defines the slots of a bay and the guard that every
  use of a device passes.

  Key definitions include:
    * `Slot`
    * `Slot.connectedType`
    * `Slot.install`
    * `Slot.validate`
    * `Slot.stateOf`
-/

namespace DeviceBay

/- The number of slots of a bay. -/
def slotCount : Nat :=
  32

abbrev SlotIndex :=
  Fin slotCount

/-
  A slot remembers the type that was installed in it and the
  state of that device. Its device is there only while it is
  `present`. The timestamp is the reading taken at the last
  change of the state by a driver or from outside.
-/
structure Slot where
  index : SlotIndex
  present : Bool := false
  deviceType : Option DeviceType := none
  timestamp : Instant := .epoch
  state : DeviceState := .empty

namespace Slot

------------------------------------------------------------
-- Presence and type
------------------------------------------------------------

/- The type of the device that is there. -/
def connectedType
    (slot : Slot) : Option DeviceType :=
  if slot.present then slot.deviceType else none

/- Puts a fresh device into the slot, there or not as before. -/
def install
    (slot : Slot)
    (t : Option DeviceType) : Slot :=
  { slot with
    deviceType := t
    state := DeviceState.forType t }

def connect
    (slot : Slot) : Slot :=
  { slot with present := true }

def disconnect
    (slot : Slot) : Slot :=
  { slot with present := false }

/- Installs a device and connects it. -/
def plugIn
    (slot : Slot)
    (t : DeviceType) : Slot :=
  (slot.install (some t)).connect

/- Equality of slots, with their states compared as values. -/
def eqv
    (a b : Slot) : Bool :=
  a.index == b.index &&
    a.present == b.present &&
    a.deviceType == b.deviceType &&
    a.timestamp == b.timestamp &&
    a.state.eqv b.state

------------------------------------------------------------
-- Guard
------------------------------------------------------------

/- Passes if a device of the expected type is there. -/
def validate
    (slot : Slot)
    (expected : DeviceType) : Except SlotError Unit :=
  match slot.connectedType with
  | none => .error (.disconnected slot.index)
  | some actual =>
      if actual = expected then
        .ok ()
      else
        .error (.incorrectDevice expected actual slot.index)

/- The failure of a slot that holds the state of another kind. -/
def stateMismatch
    (slot : Slot)
    (expected : DeviceType) : SlotError :=
  let actual := slot.state.deviceType?.getD .undefined
  .incorrectDevice expected actual slot.index

/- The state of the device that is there, if it is of a kind. -/
def stateOf
    (slot : Slot)
    (k : Kind) : Except SlotError k.State :=
  match slot.validate k.deviceType with
  | .error e => .error e
  | .ok () =>
      match slot.state.as? k with
      | none => .error (slot.stateMismatch k.deviceType)
      | some state => .ok state

/- Whether a device of the expected type is there. -/
def holds
    (slot : Slot)
    (expected : DeviceType) : Bool :=
  slot.connectedType == some expected

/- The timestamp, if a device of the expected type is there. -/
def stampOf
    (slot : Slot)
    (expected : DeviceType) : Except SlotError Instant :=
  match slot.validate expected with
  | .error e => .error e
  | .ok () => .ok slot.timestamp

theorem validate_eq_ok_iff
    (slot : Slot)
    (expected : DeviceType) :
    slot.validate expected = .ok () ↔
      slot.connectedType = some expected := by
  unfold validate
  cases slot.connectedType with
  | none => simp
  | some actual =>
      by_cases h : actual = expected
      · simp [h]
      · simp [h]

end Slot

end DeviceBay
