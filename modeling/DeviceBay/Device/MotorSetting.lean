import DeviceBay.Binary64.Basic
import DeviceBay.Device.RawCode
import DeviceBay.Flags

/-
  This file defines the settings and flags of a motor, with
  their names and raw codes.

  Key definitions include:
    * `ControlMode`
    * `BrakeMode`
    * `EncoderUnits`
    * `Gearset`
    * `Direction`
    * `MotorFlags`
    * `MotorFaults`
-/

namespace DeviceBay

------------------------------------------------------------
-- Control mode
------------------------------------------------------------

/-
  How a motor is driven. A code without a name keeps its code,
  so that every code can be read.
-/
inductive ControlMode
  | off
  | brake
  | hold
  | servo
  | profile
  | velocity
  | undefined
  | unknown (code : UInt8)
deriving DecidableEq

namespace ControlMode

def named : List ControlMode :=
  [.off, .brake, .hold, .servo, .profile, .velocity, .undefined]

def code : ControlMode → UInt8
  | .off => 0
  | .brake => 1
  | .hold => 2
  | .servo => 3
  | .profile => 4
  | .velocity => 5
  | .undefined => 6
  | .unknown code => code

/- A code without a name keeps itself. -/
def ofCode : UInt8 → ControlMode
  | 0 => .off
  | 1 => .brake
  | 2 => .hold
  | 3 => .servo
  | 4 => .profile
  | 5 => .velocity
  | 6 => .undefined
  | code => .unknown code

def name : ControlMode → String
  | .off => "Off"
  | .brake => "Brake"
  | .hold => "Hold"
  | .servo => "Servo"
  | .profile => "Profile"
  | .velocity => "Velocity"
  | .undefined => "Undefined"
  | .unknown code => "Unknown(" ++ toString code.toNat ++ ")"

end ControlMode

------------------------------------------------------------
-- Brake mode
------------------------------------------------------------

inductive BrakeMode
  | coast
  | brake
  | hold
deriving DecidableEq

namespace BrakeMode

def all : List BrakeMode :=
  [.coast, .brake, .hold]

def code : BrakeMode → UInt8
  | .brake => 1
  | .coast => 0
  | .hold => 2

def decode : UInt8 → Except UnknownVariant BrakeMode
  | 0 => .ok .coast
  | 1 => .ok .brake
  | 2 => .ok .hold
  | raw => .error ⟨.brakeMode, raw.toNat⟩

def name : BrakeMode → String
  | .coast => "Coast"
  | .brake => "Brake"
  | .hold => "Hold"

end BrakeMode

------------------------------------------------------------
-- Encoder units
------------------------------------------------------------

inductive EncoderUnits
  | degrees
  | rotations
  | counts
deriving DecidableEq

namespace EncoderUnits

def all : List EncoderUnits :=
  [.degrees, .rotations, .counts]

def code : EncoderUnits → UInt8
  | .degrees => 0
  | .rotations => 1
  | .counts => 2

def decode : UInt8 → Except UnknownVariant EncoderUnits
  | 0 => .ok .degrees
  | 1 => .ok .rotations
  | 2 => .ok .counts
  | raw => .error ⟨.encoderUnits, raw.toNat⟩

def name : EncoderUnits → String
  | .degrees => "Degrees"
  | .rotations => "Rotations"
  | .counts => "Counts"

end EncoderUnits

------------------------------------------------------------
-- Gearset
------------------------------------------------------------

inductive Gearset
  | red
  | green
  | blue
deriving DecidableEq

namespace Gearset

def all : List Gearset :=
  [.red, .green, .blue]

def code : Gearset → UInt8
  | .blue => 2
  | .green => 1
  | .red => 0

def decode : UInt8 → Except UnknownVariant Gearset
  | 0 => .ok .red
  | 1 => .ok .green
  | 2 => .ok .blue
  | raw => .error ⟨.gearset, raw.toNat⟩

def name : Gearset → String
  | .red => "Red"
  | .green => "Green"
  | .blue => "Blue"

/- The rated speed in turns per minute. -/
def maxRpm : Gearset → Binary64
  | .red => Binary64.ofNat 100
  | .green => Binary64.ofNat 200
  | .blue => Binary64.ofNat 600

end Gearset

------------------------------------------------------------
-- Direction
------------------------------------------------------------

inductive Direction
  | forward
  | reverse
deriving DecidableEq

namespace Direction

def all : List Direction :=
  [.forward, .reverse]

def isForward : Direction → Bool
  | .forward => true
  | .reverse => false

def isReverse : Direction → Bool
  | .forward => false
  | .reverse => true

def signum : Direction → Int32
  | .forward => 1
  | .reverse => -1

def opposite : Direction → Direction
  | .forward => .reverse
  | .reverse => .forward

def ofReversed
    (reversed : Bool) : Direction :=
  if reversed then .reverse else .forward

def name : Direction → String
  | .forward => "Forward"
  | .reverse => "Reverse"

end Direction

------------------------------------------------------------
-- Flags and faults
------------------------------------------------------------

def motorFlagLayout : FlagLayout 8 where
  title := "MotorFlags"
  named :=
    [("OVER_TEMPERATURE", 1), ("CURRENT_LIMIT", 2),
      ("ZERO_VELOCITY", 4), ("ZERO_POSITION", 8), ("REVERSE", 16)]
  spare := 0

/- The status flags that a motor reports. -/
abbrev MotorFlags :=
  Flags motorFlagLayout

namespace MotorFlags

def currentLimit : MotorFlags :=
  ⟨2⟩

def zeroVelocity : MotorFlags :=
  ⟨4⟩

def zeroPosition : MotorFlags :=
  ⟨8⟩

def reverse : MotorFlags :=
  ⟨16⟩

end MotorFlags

/- Every bit of the fault word may be set by a motor. -/
def motorFaultLayout : FlagLayout 32 where
  title := "MotorFaults"
  named :=
    [("OVER_TEMPERATURE", 1), ("DRIVER_FAULT", 2),
      ("OVER_CURRENT", 4), ("DRIVER_OVER_CURRENT", 8)]
  spare := BitVec.allOnes 32

/- The faults that a motor reports. -/
abbrev MotorFaults :=
  Flags motorFaultLayout

end DeviceBay
