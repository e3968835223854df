import DeviceBay.Device.MotorSetting
import DeviceBay.Device.RawCode
import DeviceBay.Slot.Basic

/-
  This file defines what a bay reports while it is used.

  Key definitions include:
    * `LinkRole`
    * `RadioActivity`
    * `IgnoredCall`
    * `Event`
    * `Event.level`
    * `Event.message`
    * `Event.fields`
-/

namespace DeviceBay

inductive Level
  | trace
  | debug
  | warn
deriving DecidableEq

def Level.name : Level → String
  | .trace => "TRACE"
  | .debug => "DEBUG"
  | .warn => "WARN"

/- The side that a radio takes in a link. -/
inductive LinkRole
  | manager
  | worker
deriving DecidableEq

namespace LinkRole

def all : List LinkRole :=
  [.manager, .worker]

def name : LinkRole → String
  | .manager => "Manager"
  | .worker => "Worker"

end LinkRole

/- What a program asks of an open radio link. -/
inductive RadioActivity
  | unreadPolled
  | receiveSpacePolled
  | transmitSpacePolled
  | linkPolled
  | received
  | transmitted
deriving DecidableEq

def RadioActivity.message : RadioActivity → String
  | .unreadPolled => "radio receive buffer polled"
  | .receiveSpacePolled => "radio receive space polled"
  | .transmitSpacePolled => "radio transmit space polled"
  | .linkPolled => "radio link status polled"
  | .received => "radio receive"
  | .transmitted => "radio transmit"

/- The calls that are accepted without doing anything. -/
inductive IgnoredCall
  | motorSetPwm
  | motorPwm
  | motorSetServoTarget
  | motorSetExternalProfile
  | imuSetMode
  | imuSetDataRate
deriving DecidableEq

def IgnoredCall.message : IgnoredCall → String
  | .motorSetPwm => "set_pwm does nothing on an emulated motor"
  | .motorPwm => "pwm does nothing on an emulated motor"
  | .motorSetServoTarget =>
      "set_servo_target does nothing on an emulated motor"
  | .motorSetExternalProfile =>
      "set_external_profile does nothing on an emulated motor"
  | .imuSetMode => "set_mode does nothing on an emulated imu"
  | .imuSetDataRate => "set_data_rate does nothing on an emulated imu"

/- Something that a bay reports about one of its slots. -/
inductive Event
  | installed (slot : SlotIndex) (type : Option DeviceType)
  | connected (slot : SlotIndex) (type : Option DeviceType)
  | disconnected (slot : SlotIndex) (type : Option DeviceType)
  | pluggedIn (slot : SlotIndex) (type : DeviceType)
  | modeChanged (slot : SlotIndex) (previous mode : ControlMode)
  | ignored (slot : SlotIndex) (call : IgnoredCall)
  | calibrationStarted (slot : SlotIndex) (resetAt : Instant)
  | calibrationFinished (slot : SlotIndex)
  | guardFailed (error : SlotError)
  | rawRejected (error : UnknownVariant)
  | linkRequested (slot : SlotIndex) (id : String) (role : LinkRole)
  | radio (slot : SlotIndex) (activity : RadioActivity)
deriving DecidableEq

namespace Event

def level : Event → Level
  | .installed _ _ => .debug
  | .connected _ _ => .debug
  | .disconnected _ _ => .debug
  | .pluggedIn _ _ => .debug
  | .modeChanged _ _ _ => .debug
  | .ignored _ _ => .warn
  | .calibrationStarted _ _ => .debug
  | .calibrationFinished _ => .debug
  | .guardFailed _ => .trace
  | .rawRejected _ => .trace
  | .linkRequested _ _ _ => .trace
  | .radio _ _ => .trace

def message : Event → String
  | .installed _ _ => "installed device"
  | .connected _ _ => "device connected"
  | .disconnected _ _ => "device disconnected"
  | .pluggedIn _ _ => "device plugged in"
  | .modeChanged _ _ _ => "motor control mode changed"
  | .ignored _ call => call.message
  | .calibrationStarted _ _ => "imu calibration started"
  | .calibrationFinished _ => "imu calibration finished"
  | .guardFailed _ => "device guard failed"
  | .rawRejected _ => "rejected raw value"
  | .linkRequested _ _ _ => "radio connection requested"
  | .radio _ activity => activity.message

/- The field that names the slot of an event. -/
def slotField
    (slot : SlotIndex) : String × String :=
  ("port", toString slot.val)

/- The details of an event, by name. -/
def fields : Event → List (String × String)
  | .installed slot t =>
      [slotField slot, ("device_type", DeviceType.describe? t)]
  | .connected slot t =>
      [slotField slot, ("device_type", DeviceType.describe? t)]
  | .disconnected slot t =>
      [slotField slot, ("device_type", DeviceType.describe? t)]
  | .pluggedIn slot t =>
      [slotField slot, ("device_type", t.name)]
  | .modeChanged slot previous mode =>
      [slotField slot, ("previous", previous.name),
        ("mode", mode.name)]
  | .ignored slot _ => [slotField slot]
  | .calibrationStarted slot resetAt =>
      [slotField slot, ("reset_at", resetAt.describe)]
  | .calibrationFinished slot => [slotField slot]
  | .guardFailed error => [("error", error.message)]
  | .rawRejected error => [("error", error.message)]
  | .linkRequested slot id role =>
      [slotField slot, ("id", id), ("link_type", role.name)]
  | .radio slot _ => [slotField slot]

end Event

end DeviceBay
