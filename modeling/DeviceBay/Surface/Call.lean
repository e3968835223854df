import DeviceBay.Bay
import DeviceBay.Surface.Imu
import DeviceBay.Surface.Motor
import DeviceBay.Surface.Radio

/-
  This file defines the calls of a raw surface: those on the
  device behind a handle, and those on the surface itself.

  Key definitions include:
    * `DeviceCall`
    * `DeviceCall.run`
    * `DirectoryCall`
    * `DirectoryCall.answer`
-/

namespace DeviceBay

/- A raw call on the device behind a handle. -/
inductive DeviceCall
  | timestamp
  | radio (c : RawRadioCall)
  | motor (c : RawMotorCall)
  | imu (c : RawImuCall)
deriving DecidableEq

def DeviceCall.run
    (env : Env)
    (clock : Clock)
    (slot : Slot)
    (errno : Errno) : DeviceCall → RawReply
  | .timestamp =>
      .plain errno slot clock (.nat slot.timestamp.toNat) []
  | .radio c => c.run clock slot errno
  | .motor c => c.run env clock slot errno
  | .imu c => c.run env clock slot errno

------------------------------------------------------------
-- Directory
------------------------------------------------------------

/- A raw question about the bay behind a surface. -/
inductive DirectoryCall
  | count
  | countByCode (code : UInt8)
  | deviceTypes
  | handle (i : Nat)
  | status (buffer : Vector UInt8 slotCount)
  | timestampAt (i : Int)
deriving DecidableEq

namespace DirectoryCall

/- The code of a device, or that of no device. -/
def codeOf : Option DeviceType → UInt8
  | none => DeviceType.noDeviceCode
  | some t => t.code

/- Writes the code of the device in each slot into a buffer. -/
def fill
    (bay : Bay)
    (buffer : Vector UInt8 slotCount) : Vector UInt8 slotCount :=
  Vector.zipWith (fun _ t => codeOf t) buffer bay.status

/- The number of slots with a device of the type of a code. -/
def countByCodeIn
    (bay : Bay)
    (code : UInt8) : Nat :=
  match DeviceType.ofCode? code with
  | none => 0
  | some t => bay.countByType t

/- A handle is the index of a slot that the bay has. -/
def handle?
    (i : Nat) : Option SlotIndex :=
  (Bay.index? i).toOption

/- The timestamp of a slot as a signed word, or minus one. -/
def timestampCode
    (bay : Bay)
    (i : Int) : Int32 :=
  if i < 0 then
    -1
  else
    match bay.timestampAt i.toNat with
    | .error _ => -1
    | .ok t => t.millis.toInt32

def answer
    (bay : Bay) : DirectoryCall → Value
  | .count => .nat bay.count
  | .countByCode code => .nat (countByCodeIn bay code)
  | .deviceTypes => .deviceTypes bay.status.toList
  | .handle i => .maybeNat ((handle? i).map (·.val))
  | .status buffer => .codedBytes 0 (fill bay buffer).toList
  | .timestampAt i => .int (timestampCode bay i).toInt

end DirectoryCall

end DeviceBay
