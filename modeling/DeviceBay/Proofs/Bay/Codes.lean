import DeviceBay.Proofs.Bay.Census
import DeviceBay.Surface.Call
import Mathlib.Data.Finset.Card

/-
  This file compares the codes of the devices in a bay with the
  counts that a raw surface gives. A count reads a code and
  looks for the type, the codes are those of the types, and the
  two agree exactly as far as types read back from their codes.

  Key definitions include:
    * `DeviceType.Disguised`
    * `Bay.codes`
    * `Bay.placesOfCode`

  Main declarations:
    * `DeviceType.ofCode?_code_eq_some_iff`
    * `Bay.fill_toList`
    * `Bay.countByCodeIn_eq_count_iff`
    * `Bay.count_eq_countP_iff`
-/

namespace DeviceBay

------------------------------------------------------------
-- Types that read back
------------------------------------------------------------

namespace DeviceType

/-
  A type without a name, under a code that means no device or
  a type with a name.
-/
def Disguised
    (t : DeviceType) : Prop :=
  ∃ code,
    t = .unknown code ∧
      (code = noDeviceCode ∨ ∃ s ∈ named, s.code = code)

/-
  A code that means a device is read as the type with a name
  that has the code, or else as one without a name.
-/
theorem cases_of_ne_noDeviceCode
    {code : UInt8}
    (hCode : code ≠ noDeviceCode) :
    (∃ s ∈ named, s.code = code ∧ ofCode? code = some s) ∨
      (∀ s ∈ named, s.code ≠ code) ∧
        ofCode? code = some (.unknown code) := by
  unfold ofCode?
  split
  case h_1 => exact absurd rfl hCode
  -- What is left for the last line of the table has no name.
  case h_22 =>
    refine Or.inr ⟨?_, rfl⟩
    rintro s hNamed rfl
    cases s with
    | unknown code => simp [named] at hNamed
    | _ => contradiction
  all_goals exact Or.inl ⟨_, by decide, rfl, rfl⟩

theorem ne_noDeviceCode_of_ofCode?
    {code : UInt8}
    {t : DeviceType}
    (hType : ofCode? code = some t) :
    code ≠ noDeviceCode := by
  rintro rfl
  cases hType

theorem exists_ofCode?
    {code : UInt8}
    (hCode : code ≠ noDeviceCode) :
    ∃ t, ofCode? code = some t := by
  rcases cases_of_ne_noDeviceCode hCode with
    ⟨s, _, _, hType⟩ | ⟨_, hType⟩
  · exact ⟨s, hType⟩
  · exact ⟨.unknown code, hType⟩

/- What is read from a code has that code. -/
theorem code_of_ofCode?
    {code : UInt8}
    {t : DeviceType}
    (hType : ofCode? code = some t) :
    t.code = code := by
  rcases cases_of_ne_noDeviceCode
      (ne_noDeviceCode_of_ofCode? hType) with
    ⟨s, _, hSame, hNamed⟩ | ⟨_, hUnknown⟩
  · cases hType.symm.trans hNamed
    exact hSame
  · cases hType.symm.trans hUnknown
    rfl

/- A code is read as one without a name if no type has it. -/
theorem ofCode?_eq_unknown_iff
    (code : UInt8) :
    ofCode? code = some (.unknown code) ↔
      code ≠ noDeviceCode ∧ ∀ s ∈ named, s.code ≠ code := by
  constructor
  · intro hUnknown
    have hCode := ne_noDeviceCode_of_ofCode? hUnknown
    rcases cases_of_ne_noDeviceCode hCode with
      ⟨s, hNamed, _, hType⟩ | ⟨hNone, _⟩
    · cases hType.symm.trans hUnknown
      simp [named] at hNamed
    · exact ⟨hCode, hNone⟩
  · rintro ⟨hCode, hNone⟩
    rcases cases_of_ne_noDeviceCode hCode with
      ⟨s, hNamed, hSame, _⟩ | ⟨_, hUnknown⟩
    · exact absurd hSame (hNone s hNamed)
    · exact hUnknown

/- Each type has a name or none. -/
theorem mem_named_or_unknown
    (t : DeviceType) :
    t ∈ named ∨ ∃ code, t = .unknown code := by
  cases t <;> simp [named]

theorem not_disguised_of_mem_named
    {t : DeviceType}
    (hNamed : t ∈ named) :
    ¬ t.Disguised := by
  rintro ⟨code, rfl, _⟩
  simp [named] at hNamed

theorem not_disguised_unknown_iff
    (code : UInt8) :
    ¬ (DeviceType.unknown code).Disguised ↔
      code ≠ noDeviceCode ∧ ∀ s ∈ named, s.code ≠ code := by
  simp [Disguised]

/- A type reads back from its code unless it is disguised. -/
theorem ofCode?_code_eq_some_iff
    (t : DeviceType) :
    ofCode? t.code = some t ↔ ¬ t.Disguised := by
  rcases t.mem_named_or_unknown with hNamed | ⟨code, rfl⟩
  · exact iff_of_true (ofCode?_code_of_mem_named t hNamed)
      (not_disguised_of_mem_named hNamed)
  · rw [DeviceType.code, ofCode?_eq_unknown_iff,
      not_disguised_unknown_iff]

end DeviceType

------------------------------------------------------------
-- Codes in a bay
------------------------------------------------------------

namespace Bay

open DirectoryCall

/- The code of no device is all that an empty slot shows. -/
theorem isSome_of_codeOf_ne
    {slot : Slot}
    (hCode : codeOf slot.connectedType ≠ DeviceType.noDeviceCode) :
    slot.connectedType.isSome = true := by
  cases hType : slot.connectedType with
  | none =>
      rw [hType] at hCode
      exact absurd rfl hCode
  | some t => rfl

variable (bay : Bay)

/- The code of the device in each slot, in order. -/
def codes : List UInt8 :=
  (List.finRange slotCount).map
    (fun i => codeOf (bay.slot i).connectedType)

/- The slots with a device of a code. -/
def placesOfCode
    (code : UInt8) : Finset SlotIndex :=
  {i | codeOf (bay.slot i).connectedType = code}

theorem length_codes :
    bay.codes.length = slotCount := by
  rw [codes, List.length_map, List.length_finRange]

/- A snapshot keeps nothing of what the buffer held. -/
theorem fill_toList
    (buffer : Vector UInt8 slotCount) :
    (fill bay buffer).toList = bay.codes := by
  apply List.ext_getElem
  · rw [Vector.length_toList, length_codes]
  · intro i hLeft hRight
    simp [fill, codes, status, slot]

/- What a count over all codes counts are the indices of slots. -/
theorem countP_codes
    (p : UInt8 → Bool) :
    bay.codes.countP p =
      Finset.card
        {i : SlotIndex |
          p (codeOf (bay.slot i).connectedType) = true} := by
  have hSlots :=
    bay.countP_slots (fun slot => p (codeOf slot.connectedType))
  rw [← hSlots, slots_toList, codes, List.countP_map,
    List.countP_map]
  rfl

theorem count_codes
    (code : UInt8) :
    bay.codes.count code = (bay.placesOfCode code).card := by
  rw [List.count, countP_codes, placesOfCode]
  simp only [beq_iff_eq]

/- The devices of a type are among those of its code. -/
theorem placesOf_subset_placesOfCode
    {code : UInt8}
    {t : DeviceType}
    (hType : DeviceType.ofCode? code = some t) :
    bay.placesOf t ⊆ bay.placesOfCode code := by
  intro i hMember
  have hThere := (Finset.mem_filter.mp hMember).2
  apply Finset.mem_filter.mpr
  rw [hThere]
  exact ⟨Finset.mem_univ i, DeviceType.code_of_ofCode? hType⟩

variable {bay}

/-
  The count of a code is that of the codes exactly if no other
  type has that code.
-/
theorem countByCodeIn_eq_count_iff
    {code : UInt8}
    {t : DeviceType}
    (hType : DeviceType.ofCode? code = some t) :
    countByCodeIn bay code = bay.codes.count code ↔
      ∀ i s,
        (bay.slot i).connectedType = some s → s.code = code →
          s = t := by
  have hSubset := bay.placesOf_subset_placesOfCode hType
  rw [countByCodeIn, hType]
  dsimp only
  rw [countByType_eq_card, count_codes]
  constructor
  · intro hCard i s hThere hCode
    have hSame := Finset.eq_of_subset_of_card_le hSubset hCard.ge
    have hMember : i ∈ bay.placesOf t := by
      rw [hSame]
      apply Finset.mem_filter.mpr
      rw [hThere]
      exact ⟨Finset.mem_univ i, hCode⟩
    have hOther := (Finset.mem_filter.mp hMember).2
    rw [hThere] at hOther
    exact Option.some.inj hOther
  · intro hOnly
    congr 1
    apply Finset.Subset.antisymm hSubset
    intro i hMember
    have hCode := (Finset.mem_filter.mp hMember).2
    apply Finset.mem_filter.mpr
    refine ⟨Finset.mem_univ i, ?_⟩
    cases hThere : (bay.slot i).connectedType with
    | none =>
        rw [hThere] at hCode
        rw [← hCode] at hType
        cases hType
    | some s =>
        rw [hThere] at hCode
        rw [hOnly i s hThere hCode]

/-
  The count of all devices is that of the codes that mean some
  device exactly if no device has the code of none.
-/
theorem count_eq_countP_iff :
    bay.count =
        bay.codes.countP (fun code => code ≠ DeviceType.noDeviceCode) ↔
      ∀ i s,
        (bay.slot i).connectedType = some s →
          s.code ≠ DeviceType.noDeviceCode := by
  have hCoded :
      ({i : SlotIndex |
          decide
            (codeOf (bay.slot i).connectedType ≠
              DeviceType.noDeviceCode) = true} :
          Finset SlotIndex) ⊆
        bay.occupied := by
    intro i hMember
    have hCode := of_decide_eq_true (Finset.mem_filter.mp hMember).2
    apply Finset.mem_filter.mpr
    exact ⟨Finset.mem_univ i, isSome_of_codeOf_ne hCode⟩
  rw [count_eq_card, countP_codes]
  constructor
  · intro hCard i s hThere
    have hSame := Finset.eq_of_subset_of_card_le hCoded hCard.le
    have hMember : i ∈ bay.occupied := by
      apply Finset.mem_filter.mpr
      rw [hThere]
      exact ⟨Finset.mem_univ i, rfl⟩
    rw [← hSame] at hMember
    have hCode := of_decide_eq_true (Finset.mem_filter.mp hMember).2
    rw [hThere] at hCode
    exact hCode
  · intro hNone
    congr 1
    apply Finset.Subset.antisymm _ hCoded
    intro i hMember
    rcases Option.isSome_iff_exists.mp
        (Finset.mem_filter.mp hMember).2 with ⟨s, hThere⟩
    apply Finset.mem_filter.mpr
    refine ⟨Finset.mem_univ i, decide_eq_true ?_⟩
    rw [hThere]
    exact hNone i s hThere

end Bay

end DeviceBay
