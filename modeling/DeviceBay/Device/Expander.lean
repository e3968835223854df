/-
  This file defines the state of a simulated three-wire
  expander: the use that each of its eight lines is put to.

  Key definitions include:
    * `LineMode`
    * `lineCount`
    * `Expander`
-/

namespace DeviceBay

/-
  What a three-wire line is used for. A code without a name
  keeps its code.
-/
inductive LineMode
  | undefined
  | digitalIn
  | digitalOut
  | analogIn
  | pwmOut
  | switch
  | switchV2
  | potentiometer
  | potentiometerV2
  | gyro
  | servo
  | encoder
  | rangeFinder
  | lineTracker
  | lightSensor
  | accelerometer
  | motor
  | motorSlew
  | unknown (code : UInt8)
deriving DecidableEq

namespace LineMode

def named : List LineMode :=
  [.undefined, .digitalIn, .digitalOut, .analogIn, .pwmOut,
    .switch, .switchV2, .potentiometer, .potentiometerV2,
    .gyro, .servo, .encoder, .rangeFinder, .lineTracker,
    .lightSensor, .accelerometer, .motor, .motorSlew]

/- What a line is used for before it is told otherwise. -/
def standard : LineMode :=
  .analogIn

def code : LineMode → UInt8
  | .undefined => 255
  | .digitalIn => 2
  | .digitalOut => 3
  | .analogIn => 0
  | .pwmOut => 1
  | .switch => 6
  | .switchV2 => 4
  | .potentiometer => 7
  | .potentiometerV2 => 5
  | .gyro => 10
  | .servo => 12
  | .encoder => 14
  | .rangeFinder => 15
  | .lineTracker => 8
  | .lightSensor => 9
  | .accelerometer => 11
  | .motor => 13
  | .motorSlew => 16
  | .unknown code => code

/- A code without a name keeps itself. -/
def ofCode : UInt8 → LineMode
  | 255 => .undefined
  | 2 => .digitalIn
  | 3 => .digitalOut
  | 0 => .analogIn
  | 1 => .pwmOut
  | 6 => .switch
  | 4 => .switchV2
  | 7 => .potentiometer
  | 5 => .potentiometerV2
  | 10 => .gyro
  | 12 => .servo
  | 14 => .encoder
  | 15 => .rangeFinder
  | 8 => .lineTracker
  | 9 => .lightSensor
  | 11 => .accelerometer
  | 13 => .motor
  | 16 => .motorSlew
  | code => .unknown code

def name : LineMode → String
  | .undefined => "Undefined"
  | .digitalIn => "DigitalIn"
  | .digitalOut => "DigitalOut"
  | .analogIn => "AnalogIn"
  | .pwmOut => "PwmOut"
  | .switch => "Switch"
  | .switchV2 => "SwitchV2"
  | .potentiometer => "Potentiometer"
  | .potentiometerV2 => "PotentiometerV2"
  | .gyro => "Gyro"
  | .servo => "Servo"
  | .encoder => "Encoder"
  | .rangeFinder => "RangeFinder"
  | .lineTracker => "LineTracker"
  | .lightSensor => "LightSensor"
  | .accelerometer => "Accelerometer"
  | .motor => "Motor"
  | .motorSlew => "MotorSlew"
  | .unknown code =>
      "Unknown(V5_AdiPortConfiguration(" ++ toString code.toNat ++ "))"

end LineMode

/- The number of lines of an expander. -/
def lineCount : Nat :=
  8

structure Expander where
  lines : Vector LineMode lineCount :=
    Vector.replicate lineCount .standard
deriving DecidableEq

end DeviceBay
