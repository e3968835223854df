import DeviceBay.Proofs.Device.Codes
import DeviceBay.Proofs.Motor.Registers
import DeviceBay.Proofs.Surface.Typed

/-
  This file gathers the four settings of a motor that a raw
  surface gives and takes by their codes. It proves that a code
  that is taken is that of the value that is stored, that the
  code of every value is taken, and that one value alone has
  the code that stands for a failure.

  Key definitions include:
    * `MotorSetting`
    * `MotorSetting.register`
    * `MotorSetting.code`
    * `MotorSetting.decode`
    * `MotorSetting.getCall`
    * `MotorSetting.setCall`

  Main declarations:
    * `MotorSetting.code_of_decode`
    * `MotorSetting.exists_decode_iff`
    * `MotorSetting.exists_code_iff`
    * `MotorSetting.told?_command`
    * `ControlMode.code_eq_failureByte_iff`
-/

namespace DeviceBay

------------------------------------------------------------
-- Codes of failures
------------------------------------------------------------

namespace ControlMode

/- Only a mode without a name can have the code of a failure. -/
theorem code_eq_failureByte_iff
    (mode : ControlMode) :
    mode.code = failureByte ↔ mode = .unknown failureByte := by
  cases mode with
  | unknown raw => simp [code]
  | off | brake | hold | servo | profile | velocity | undefined =>
      exact iff_of_false (by decide) nofun

end ControlMode

------------------------------------------------------------
-- Settings
------------------------------------------------------------

/- The settings of a motor that have raw codes. -/
inductive MotorSetting
  | controlMode
  | brakeMode
  | encoderUnits
  | gearset
deriving DecidableEq

namespace MotorSetting

/- The register that a setting is kept in. -/
abbrev register : MotorSetting → MotorRegister
  | .controlMode => .controlMode
  | .brakeMode => .brakeMode
  | .encoderUnits => .encoderUnits
  | .gearset => .gearset

abbrev Value
    (r : MotorSetting) : Type :=
  r.register.Value

def code : (r : MotorSetting) → r.Value → UInt8
  | .controlMode => ControlMode.code
  | .brakeMode => BrakeMode.code
  | .encoderUnits => EncoderUnits.code
  | .gearset => Gearset.code

/- The value that a code stands for. Every code is of some mode. -/
def decode :
    (r : MotorSetting) → UInt8 → Except UnknownVariant r.Value
  | .controlMode => fun raw => .ok (ControlMode.ofCode raw)
  | .brakeMode => BrakeMode.decode
  | .encoderUnits => EncoderUnits.decode
  | .gearset => Gearset.decode

def query : MotorSetting → MotorQuery
  | .controlMode => .mode
  | .brakeMode => .brakeMode
  | .encoderUnits => .encoderUnits
  | .gearset => .gearset

def command : (r : MotorSetting) → r.Value → MotorCommand
  | .controlMode => .setMode
  | .brakeMode => .setBrakeMode
  | .encoderUnits => .setEncoderUnits
  | .gearset => .setGearset

def getCall : MotorSetting → RawMotorCall
  | .controlMode => .modeGet
  | .brakeMode => .brakeModeGet
  | .encoderUnits => .encoderUnitsGet
  | .gearset => .gearingGet

def setCall : MotorSetting → UInt8 → RawMotorCall
  | .controlMode => .modeSet
  | .brakeMode => .brakeModeSet
  | .encoderUnits => .encoderUnitsSet
  | .gearset => .gearingSet

------------------------------------------------------------
-- Codes
------------------------------------------------------------

/- What is stored for a code has that code. -/
theorem code_of_decode
    {r : MotorSetting}
    {raw : UInt8}
    {value : r.Value}
    (hDecode : r.decode raw = .ok value) :
    r.code value = raw := by
  cases r with
  | controlMode =>
      cases hDecode
      exact ControlMode.code_ofCode raw
  | brakeMode => exact BrakeMode.readsBack.code_of_decode hDecode
  | encoderUnits =>
      exact EncoderUnits.readsBack.code_of_decode hDecode
  | gearset => exact Gearset.readsBack.code_of_decode hDecode

/- The codes that stand for a value are those that values have. -/
theorem exists_decode_iff
    (r : MotorSetting)
    (raw : UInt8) :
    (∃ value, r.decode raw = .ok value) ↔
      ∃ value, r.code value = raw := by
  cases r with
  | controlMode =>
      exact iff_of_true ⟨_, rfl⟩
        ⟨.ofCode raw, ControlMode.code_ofCode raw⟩
  | brakeMode => exact BrakeMode.readsBack.exists_decode_iff raw
  | encoderUnits =>
      exact EncoderUnits.readsBack.exists_decode_iff raw
  | gearset => exact Gearset.readsBack.exists_decode_iff raw

/- Every code is one of a mode, and the others have three each. -/
theorem exists_code_iff
    (r : MotorSetting)
    (raw : UInt8) :
    (∃ value, r.code value = raw) ↔
      r = .controlMode ∨ raw = 0 ∨ raw = 1 ∨ raw = 2 := by
  cases r with
  | controlMode =>
      exact iff_of_true
        ⟨.ofCode raw, ControlMode.code_ofCode raw⟩ (Or.inl rfl)
  | brakeMode =>
      rw [or_iff_right nofun]
      constructor
      · rintro ⟨value, rfl⟩
        cases value <;> decide
      · rintro (rfl | rfl | rfl)
        · exact ⟨BrakeMode.coast, rfl⟩
        · exact ⟨BrakeMode.brake, rfl⟩
        · exact ⟨BrakeMode.hold, rfl⟩
  | encoderUnits =>
      rw [or_iff_right nofun]
      constructor
      · rintro ⟨value, rfl⟩
        cases value <;> decide
      · rintro (rfl | rfl | rfl)
        · exact ⟨EncoderUnits.degrees, rfl⟩
        · exact ⟨EncoderUnits.rotations, rfl⟩
        · exact ⟨EncoderUnits.counts, rfl⟩
  | gearset =>
      rw [or_iff_right nofun]
      constructor
      · rintro ⟨value, rfl⟩
        cases value <;> decide
      · rintro (rfl | rfl | rfl)
        · exact ⟨Gearset.red, rfl⟩
        · exact ⟨Gearset.green, rfl⟩
        · exact ⟨Gearset.blue, rfl⟩

theorem code_ne_failureByte
    {r : MotorSetting}
    (hOther : r ≠ .controlMode)
    (value : r.Value) :
    r.code value ≠ failureByte := by
  cases r with
  | controlMode => exact absurd rfl hOther
  | brakeMode => cases value <;> decide
  | encoderUnits => cases value <;> decide
  | gearset => cases value <;> decide

------------------------------------------------------------
-- Calls
------------------------------------------------------------

theorem typed_getCall
    (r : MotorSetting) :
    r.getCall.typed = .ok (.ask r.query) := by
  cases r <;> rfl

theorem form_getCall
    (r : MotorSetting) :
    r.getCall.form = .byte := by
  cases r <;> rfl

/- A raw code is made into a command, or is refused. -/
theorem typed_setCall
    (r : MotorSetting)
    (raw : UInt8) :
    (r.setCall raw).typed =
      (r.decode raw).map (fun value => .tell (r.command value)) := by
  cases r <;> rfl

theorem form_setCall
    (r : MotorSetting)
    (raw : UInt8) :
    (r.setCall raw).form = .nothing := by
  cases r <;> rfl

/- The raw answer is the code of what the register holds. -/
theorem encode_read
    (r : MotorSetting)
    (env : Env)
    (m : Motor)
    (stamp : Instant) :
    RawForm.byte.encode (r.query.value (r.query.read env m stamp)) =
      .nat (r.code (MotorRegister.get m r.register)).toNat := by
  cases r with
  | controlMode =>
      change RawForm.byte.encode (.controlMode m.controlMode) =
        .nat m.controlMode.code.toNat
      cases m.controlMode <;> rfl
  | brakeMode =>
      change RawForm.byte.encode (.brakeMode m.brakeMode) =
        .nat m.brakeMode.code.toNat
      cases m.brakeMode <;> rfl
  | encoderUnits =>
      change RawForm.byte.encode (.encoderUnits m.encoderUnits) =
        .nat m.encoderUnits.code.toNat
      cases m.encoderUnits <;> rfl
  | gearset =>
      change RawForm.byte.encode (.gearset m.gearset) =
        .nat m.gearset.code.toNat
      cases m.gearset <;> rfl

theorem told?_command
    (r : MotorSetting)
    (value : r.Value)
    (owners : Owners)
    (place : Binary64) :
    MotorRegister.told? owners place (r.command value) r.register =
      some value := by
  cases r <;> rfl

/- A setting is written to its own register and to no other. -/
theorem told?_command_of_ne
    {r : MotorSetting}
    {q : MotorRegister}
    (hOther : q ≠ r.register)
    (value : r.Value)
    (owners : Owners)
    (place : Binary64) :
    MotorRegister.told? owners place (r.command value) q = none := by
  cases r <;> cases q <;> first | rfl | exact absurd rfl hOther

end MotorSetting

end DeviceBay
