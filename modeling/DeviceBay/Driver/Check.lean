import DeviceBay.Slot.Access

/-
  This file defines what every driver can be asked, whatever
  the type of its device.

  Key definitions include:
    * `DriverCheck`
    * `DriverCheck.Answer`
    * `DriverCheck.ask`
-/

namespace DeviceBay

/- A question to a driver about its slot. -/
inductive DriverCheck
  | slotIndex
  | deviceType
  | isConnected
  | timestamp
  | validate
deriving DecidableEq

namespace DriverCheck

abbrev Answer : DriverCheck → Type
  | .slotIndex => SlotIndex
  | .deviceType => DeviceType
  | .isConnected => Bool
  | .timestamp => Instant
  | .validate => Unit

/- The answer of a driver for devices of the expected type. -/
def ask
    (expected : DeviceType)
    (slot : Slot) :
    (q : DriverCheck) → Except SlotError q.Answer
  | .slotIndex => .ok slot.index
  | .deviceType => .ok expected
  | .isConnected => .ok (slot.holds expected)
  | .timestamp => slot.stampOf expected
  | .validate => slot.validate expected

end DriverCheck

end DeviceBay
