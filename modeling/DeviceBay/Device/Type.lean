/-
  This file defines the types of smart devices and their codes.

  Key definitions include:
    * `DeviceType`
    * `DeviceType.code`
    * `DeviceType.ofCode?`
    * `DeviceType.name`
-/

namespace DeviceBay

/-
  The type that a device reports. A code without a name keeps
  its code. A type given as `unknown` with the code of a named
  type is still not that named type.
-/
inductive DeviceType
  | motor
  | led
  | rotation
  | crMotor
  | imu
  | distance
  | radio
  | tether
  | brain
  | vision
  | adi
  | optical
  | electromagnet
  | gps
  | bumper
  | gyro
  | sonar
  | genericSensor
  | genericSerial
  | undefined
  | unknown (code : UInt8)
deriving DecidableEq

namespace DeviceType

/- The types with a name. -/
def named : List DeviceType :=
  [.motor, .led, .rotation, .crMotor, .imu, .distance,
    .radio, .tether, .brain, .vision, .adi, .optical,
    .electromagnet, .gps, .bumper, .gyro, .sonar,
    .genericSensor, .genericSerial, .undefined]

def code : DeviceType → UInt8
  | .motor => 2
  | .led => 3
  | .rotation => 4
  | .crMotor => 5
  | .imu => 6
  | .distance => 7
  | .radio => 8
  | .tether => 9
  | .brain => 10
  | .vision => 11
  | .adi => 12
  | .optical => 16
  | .electromagnet => 17
  | .gps => 20
  | .bumper => 0x40
  | .gyro => 0x46
  | .sonar => 0x47
  | .genericSensor => 128
  | .genericSerial => 129
  | .undefined => 255
  | .unknown code => code

/- The code of a slot that holds no device. -/
def noDeviceCode : UInt8 :=
  0

/-
  The type with a code. The code zero stands for no device,
  and a code that no named type has is kept as it is.
-/
def ofCode? : UInt8 → Option DeviceType
  | 0 => none
  | 2 => some .motor
  | 3 => some .led
  | 4 => some .rotation
  | 5 => some .crMotor
  | 6 => some .imu
  | 7 => some .distance
  | 8 => some .radio
  | 9 => some .tether
  | 10 => some .brain
  | 11 => some .vision
  | 12 => some .adi
  | 16 => some .optical
  | 17 => some .electromagnet
  | 20 => some .gps
  | 0x40 => some .bumper
  | 0x46 => some .gyro
  | 0x47 => some .sonar
  | 128 => some .genericSensor
  | 129 => some .genericSerial
  | 255 => some .undefined
  | code => some (.unknown code)

def name : DeviceType → String
  | .motor => "Motor"
  | .led => "Led"
  | .rotation => "Rotation"
  | .crMotor => "CrMotor"
  | .imu => "Imu"
  | .distance => "Distance"
  | .radio => "Radio"
  | .tether => "Tether"
  | .brain => "Brain"
  | .vision => "Vision"
  | .adi => "Adi"
  | .optical => "Optical"
  | .electromagnet => "Electromagnet"
  | .gps => "Gps"
  | .bumper => "Bumper"
  | .gyro => "Gyro"
  | .sonar => "Sonar"
  | .genericSensor => "GenericSensor"
  | .genericSerial => "GenericSerial"
  | .undefined => "Undefined"
  | .unknown code => "Unknown(" ++ toString code.toNat ++ ")"

/- The text of a type that a slot may lack. -/
def describe? : Option DeviceType → String
  | none => "None"
  | some t => "Some(" ++ t.name ++ ")"

/- Reading the code of a named type gives the type back. -/
theorem ofCode?_code_of_mem_named
    (t : DeviceType)
    (h : t ∈ named) :
    ofCode? t.code = some t := by
  revert t
  decide

end DeviceType

end DeviceBay
