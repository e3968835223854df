import DeviceBay.Device.Expander
import DeviceBay.Device.Type

/-
  This file defines the failures of operations on a slot and
  their texts.

  Key definitions include:
    * `SlotError`
    * `LineError`
    * `TransferError`
    * `Failure`
-/

namespace DeviceBay

/- Why the device in a slot cannot be used. -/
inductive SlotError
  | disconnected (slot : Nat)
  | incorrectDevice (expected actual : DeviceType) (slot : Nat)
  | outOfRange (index : Nat)
deriving DecidableEq

def SlotError.message : SlotError → String
  | .disconnected slot =>
      "Expected a device to be connected to port " ++
        toString slot
  | .incorrectDevice expected actual slot =>
      "Expected a " ++ expected.name ++ " device on port " ++
        toString slot ++ ", but found a " ++ actual.name ++
        " device"
  | .outOfRange index =>
      "Port index " ++ toString index ++
        " is outside of the port table"

/- Why a three-wire line of an expander cannot be used. -/
inductive LineError
  | outOfRange (line : Nat)
  | slot (error : SlotError)
deriving DecidableEq

namespace LineError

def message : LineError → String
  | .outOfRange line =>
      "Three-wire port index " ++ toString line ++
        " is out of range"
  | .slot error => error.message

/- The failure of the slot behind the failure of a line. -/
def source? : LineError → Option SlotError
  | .outOfRange _ => none
  | .slot error => some error

end LineError

/- Why bytes were not moved in full over a radio link. -/
inductive TransferError
  | unexpectedEnd
  | nothingWritten
deriving DecidableEq

/- Every failure that an operation on a slot can answer. -/
inductive Failure
  | slot (error : SlotError)
  | line (error : LineError)
  | transfer (error : TransferError)
deriving DecidableEq

end DeviceBay
