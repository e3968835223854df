import DeviceBay.Device.Expander
import DeviceBay.Device.Imu
import DeviceBay.Device.MotorSetting

/-
  This file proves that each table that reads raw codes agrees
  with the table, written apart from it, that gives them. A
  table that refuses codes reads back exactly what the other
  one gives, and a table that keeps a code without a name
  loses no code.

  Key definitions include:
    * `ReadsBack`

  Main declarations:
    * `ReadsBack.code_of_decode`
    * `ReadsBack.exists_decode_iff`
    * `BrakeMode.readsBack`
    * `EncoderUnits.readsBack`
    * `Gearset.readsBack`
    * `Orientation.readsBack`
    * `ControlMode.code_ofCode`
    * `LineMode.code_ofCode`
-/

namespace DeviceBay

------------------------------------------------------------
-- Tables that refuse codes
------------------------------------------------------------

/-
  A table that reads codes of a kind, beside one that gives
  them. A code is read as the value that it was given for, and
  every other code is refused by its own name.
-/
structure ReadsBack
    {α : Type}
    (kind : RawKind)
    (decode : UInt8 → Except UnknownVariant α)
    (code : α → UInt8) : Prop where
  decode_code (value : α) :
    decode (code value) = .ok value
  read_or_refused (raw : UInt8) :
    (∃ value, decode raw = .ok value ∧ code value = raw) ∨
      decode raw = .error ⟨kind, raw.toNat⟩

namespace ReadsBack

variable {α : Type} {kind : RawKind}
variable {decode : UInt8 → Except UnknownVariant α}
variable {code : α → UInt8}

/- Whatever is read from a code is given that code. -/
theorem code_of_decode
    (hReads : ReadsBack kind decode code)
    {raw : UInt8}
    {value : α}
    (hDecode : decode raw = .ok value) :
    code value = raw := by
  rcases hReads.read_or_refused raw with
    ⟨read, hRead, hCode⟩ | hRefused
  · cases hDecode.symm.trans hRead
    exact hCode
  · cases hDecode.symm.trans hRefused

/- The codes that are read are those that are given. -/
theorem exists_decode_iff
    (hReads : ReadsBack kind decode code)
    (raw : UInt8) :
    (∃ value, decode raw = .ok value) ↔
      ∃ value, code value = raw := by
  constructor
  · rintro ⟨value, hDecode⟩
    exact ⟨value, hReads.code_of_decode hDecode⟩
  · rintro ⟨value, rfl⟩
    exact ⟨value, hReads.decode_code value⟩

end ReadsBack

theorem BrakeMode.readsBack :
    ReadsBack .brakeMode BrakeMode.decode BrakeMode.code where
  decode_code value := by cases value <;> rfl
  read_or_refused raw := by
    unfold BrakeMode.decode
    split
    · exact Or.inl ⟨.coast, rfl, rfl⟩
    · exact Or.inl ⟨.brake, rfl, rfl⟩
    · exact Or.inl ⟨.hold, rfl, rfl⟩
    · exact Or.inr rfl

theorem EncoderUnits.readsBack :
    ReadsBack .encoderUnits EncoderUnits.decode
      EncoderUnits.code where
  decode_code value := by cases value <;> rfl
  read_or_refused raw := by
    unfold EncoderUnits.decode
    split
    · exact Or.inl ⟨.degrees, rfl, rfl⟩
    · exact Or.inl ⟨.rotations, rfl, rfl⟩
    · exact Or.inl ⟨.counts, rfl, rfl⟩
    · exact Or.inr rfl

theorem Gearset.readsBack :
    ReadsBack .gearset Gearset.decode Gearset.code where
  decode_code value := by cases value <;> rfl
  read_or_refused raw := by
    unfold Gearset.decode
    split
    · exact Or.inl ⟨.red, rfl, rfl⟩
    · exact Or.inl ⟨.green, rfl, rfl⟩
    · exact Or.inl ⟨.blue, rfl, rfl⟩
    · exact Or.inr rfl

theorem Orientation.readsBack :
    ReadsBack .orientation Orientation.decode
      Orientation.code where
  decode_code value := by cases value <;> rfl
  read_or_refused raw := by
    unfold Orientation.decode
    split
    · exact Or.inl ⟨.zUp, rfl, rfl⟩
    · exact Or.inl ⟨.zDown, rfl, rfl⟩
    · exact Or.inl ⟨.xUp, rfl, rfl⟩
    · exact Or.inl ⟨.xDown, rfl, rfl⟩
    · exact Or.inl ⟨.yUp, rfl, rfl⟩
    · exact Or.inl ⟨.yDown, rfl, rfl⟩
    · exact Or.inr rfl

------------------------------------------------------------
-- Tables that keep codes
------------------------------------------------------------

namespace ControlMode

theorem code_ofCode
    (raw : UInt8) :
    (ofCode raw).code = raw := by
  unfold ofCode
  split <;> rfl

/- A mode with a name reads back from its code. -/
theorem ofCode_code_of_mem_named
    {mode : ControlMode}
    (hNamed : mode ∈ named) :
    ofCode mode.code = mode := by
  revert mode
  decide

end ControlMode

namespace LineMode

theorem code_ofCode
    (raw : UInt8) :
    (ofCode raw).code = raw := by
  unfold ofCode
  split <;> rfl

/- A use with a name reads back from its code. -/
theorem ofCode_code_of_mem_named
    {mode : LineMode}
    (hNamed : mode ∈ named) :
    ofCode mode.code = mode := by
  revert mode
  decide

end LineMode

end DeviceBay
