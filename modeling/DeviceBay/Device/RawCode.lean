/-
  This file defines the failure of reading a raw code.

  Key definitions include:
    * `RawKind`
    * `UnknownVariant`
-/

namespace DeviceBay

/- The kinds of raw codes that do not read back in every case. -/
inductive RawKind
  | brakeMode
  | encoderUnits
  | gearset
  | orientation
deriving DecidableEq

namespace RawKind

def name : RawKind → String
  | .brakeMode => "V5MotorBrakeMode"
  | .encoderUnits => "V5MotorEncoderUnits"
  | .gearset => "V5MotorGearset"
  | .orientation => "V5ImuOrientationMode"

end RawKind

/- A raw code that stands for no value of its kind. -/
structure UnknownVariant where
  kind : RawKind
  value : Nat
deriving DecidableEq

def UnknownVariant.message
    (e : UnknownVariant) : String :=
  "Unrecognized raw " ++ e.kind.name ++
    " value " ++ toString e.value

end DeviceBay
