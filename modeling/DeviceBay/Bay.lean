import DeviceBay.Slot.Access

/-
  This file defines a bay of slots and the questions about all
  of its slots.

  Key definitions include:
    * `Bay`
    * `Bay.fresh`
    * `Bay.index?`
    * `Bay.status`
    * `Bay.count`
    * `Bay.used`
-/

namespace DeviceBay

structure Bay where
  config : Config
  slots : Vector Slot slotCount

namespace Bay

/- A bay in which nothing was ever installed. -/
def fresh
    (config : Config) : Bay where
  config := config
  slots := Vector.ofFn (fun i => { index := i })

/- The slot that a number means, if the bay has it. -/
def index?
    (i : Nat) : Except SlotError SlotIndex :=
  if h : i < slotCount then
    .ok ⟨i, h⟩
  else
    .error (.outOfRange i)

def slot
    (bay : Bay)
    (i : SlotIndex) : Slot :=
  bay.slots[i]

def setSlot
    (bay : Bay)
    (i : SlotIndex)
    (slot : Slot) : Bay :=
  { bay with slots := bay.slots.set i slot }

------------------------------------------------------------
-- Questions
------------------------------------------------------------

/- The type of the device that is in each slot, in order. -/
def status
    (bay : Bay) : Vector (Option DeviceType) slotCount :=
  bay.slots.map Slot.connectedType

/- The number of slots with a device. -/
def count
    (bay : Bay) : Nat :=
  bay.slots.toList.countP (fun slot => slot.connectedType.isSome)

/- The number of slots with a device of a type. -/
def countByType
    (bay : Bay)
    (t : DeviceType) : Nat :=
  bay.slots.toList.countP (fun slot => slot.holds t)

def indices : List Nat :=
  List.range slotCount

def timestampAt
    (bay : Bay)
    (i : Nat) : Except SlotError Instant :=
  (index? i).map (fun index => (bay.slot index).timestamp)

/- The slots that ever held a device or were ever stamped. -/
def used
    (bay : Bay) : List Slot :=
  bay.slots.toList.filter
    (fun slot =>
      slot.present || slot.deviceType.isSome ||
        slot.timestamp != .epoch)

def describe
    (bay : Bay) : String :=
  "PortTable \x7b config: " ++ bay.config.describe ++ ", .. \x7d"

@[simp]
theorem slot_setSlot_self
    (bay : Bay)
    (i : SlotIndex)
    (slot : Slot) :
    (bay.setSlot i slot).slot i = slot := by
  simp [Bay.slot, setSlot]

theorem slot_setSlot_of_ne
    (bay : Bay)
    (i j : SlotIndex)
    (slot : Slot)
    (h : i ≠ j) :
    (bay.setSlot i slot).slot j = bay.slot j := by
  have hVal : i.val ≠ j.val := fun hEq => h (Fin.ext hEq)
  simp [Bay.slot, setSlot, Vector.getElem_set_ne, hVal]

end Bay

end DeviceBay
