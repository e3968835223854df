import DeviceBay.Bay
import DeviceBay.Proofs.Slot.Guard
import Mathlib.Algebra.BigOperators.Group.Finset.Basic
import Mathlib.Data.Fintype.Basic

/-
  This file proves that the questions about all slots of a bay
  agree with each other: what is in each slot, how many devices
  there are, and how many of each type.

  Key definitions include:
    * `Bay.types`
    * `Bay.occupied`
    * `Bay.placesOf`

  Main declarations:
    * `Bay.count_eq_card`
    * `Bay.countByType_eq_card`
    * `Bay.card_occupied_eq_sum`
-/

namespace DeviceBay

/- A device that is there has a type that was installed. -/
theorem Slot.deviceType_of_isSome
    {slot : Slot}
    (hThere : slot.connectedType.isSome = true) :
    ∃ t, slot.connectedType = some t ∧ slot.deviceType = some t := by
  rcases Option.isSome_iff_exists.mp hThere with ⟨t, hType⟩
  exact ⟨t, hType, ((slot.connectedType_eq_some_iff t).mp hType).2⟩

namespace Bay

/- The types that were installed in the slots, each once. -/
def types
    (bay : Bay) : Finset DeviceType :=
  (bay.slots.toList.filterMap Slot.deviceType).toFinset

/- The slots with a device. -/
def occupied
    (bay : Bay) : Finset SlotIndex :=
  {i | (bay.slot i).connectedType.isSome = true}

/- The slots with a device of a type. -/
def placesOf
    (bay : Bay)
    (t : DeviceType) : Finset SlotIndex :=
  {i | (bay.slot i).connectedType = some t}

theorem slots_toList
    (bay : Bay) :
    bay.slots.toList = (List.finRange slotCount).map bay.slot := by
  apply List.ext_getElem
  · simp
  · intro i hLeft hRight
    simp [slot]

/- What a count over all slots counts are the indices of slots. -/
theorem countP_slots
    (bay : Bay)
    (p : Slot → Bool) :
    bay.slots.toList.countP p =
      Finset.card {i : SlotIndex | p (bay.slot i) = true} := by
  have hOnce :
      ((List.finRange slotCount).filter (p ∘ bay.slot)).Nodup :=
    (List.nodup_finRange slotCount).filter _
  rw [slots_toList, List.countP_map, List.countP_eq_length_filter,
    ← List.toFinset_card_of_nodup hOnce]
  congr 1
  ext i
  simp

theorem count_eq_card
    (bay : Bay) :
    bay.count = bay.occupied.card :=
  bay.countP_slots _

theorem countByType_eq_card
    (bay : Bay)
    (t : DeviceType) :
    bay.countByType t = (bay.placesOf t).card := by
  rw [countByType, countP_slots, placesOf]
  simp only [Slot.holds, beq_iff_eq]

theorem status_toList
    (bay : Bay) :
    bay.status.toList =
      (List.finRange slotCount).map
        (fun i => (bay.slot i).connectedType) := by
  rw [status, Vector.toList_map, slots_toList, List.map_map]
  rfl

theorem mem_types_of_deviceType
    {bay : Bay}
    {i : SlotIndex}
    {t : DeviceType}
    (hType : (bay.slot i).deviceType = some t) :
    t ∈ bay.types := by
  rw [types, List.mem_toFinset, List.mem_filterMap]
  refine ⟨bay.slot i, ?_, hType⟩
  rw [slots_toList]
  exact List.mem_map_of_mem (List.mem_finRange i)

/- Each device is counted under the one type that it has. -/
theorem card_occupied_eq_sum
    (bay : Bay) :
    bay.occupied.card = ∑ t ∈ bay.types, (bay.placesOf t).card := by
  have hTypes :
      ∀ i ∈ bay.occupied,
        (bay.slot i).connectedType ∈
          bay.types.map Function.Embedding.some := by
    intro i hMember
    have hThere := (Finset.mem_filter.mp hMember).2
    rcases Slot.deviceType_of_isSome hThere with
      ⟨t, hConnected, hType⟩
    rw [hConnected]
    exact Finset.mem_map_of_mem _ (mem_types_of_deviceType hType)
  rw [Finset.card_eq_sum_card_fiberwise hTypes, Finset.sum_map]
  apply Finset.sum_congr rfl
  intro t _
  congr 1
  ext i
  simp only [occupied, placesOf, Finset.mem_filter,
    Finset.mem_univ, true_and, Function.Embedding.some_apply]
  constructor
  · exact fun hBoth => hBoth.2
  · exact fun hType => ⟨by rw [hType]; rfl, hType⟩

end Bay

end DeviceBay
