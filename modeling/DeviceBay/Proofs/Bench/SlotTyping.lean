import DeviceBay.Proofs.Bench.Refusal

/-
  This file proves that a slot of a reachable bench always
  holds the state that goes with its type, so that a state of
  another kind is never met behind the guard, and no error ever
  says that a device is not of its own type.

  Main declarations:
    * `Bench.Coherent.expected_ne_actual`
    * `Bench.reachable_slots_fit_their_types`
-/

namespace DeviceBay

namespace Bench

variable {n m : Nat}

/- The errors that a step brings up name two different types. -/
theorem Coherent.expected_ne_actual
    {bench : Bench n m}
    (hBench : bench.Coherent)
    {s : Step n m}
    {expected actual : DeviceType}
    {place : Nat}
    (hMember :
      .incorrectDevice expected actual place ∈
        (bench.step s).2.slotErrors) :
    expected ≠ actual := by
  rcases step_slotErrors hBench hMember with
    ⟨i, hRange⟩ | ⟨b, i, t, hRefused⟩
  · cases hRange
  · rcases Slot.cases_of_refused hRefused with
      hVacant | ⟨other, hOther, hError⟩
    · cases hVacant
    · cases hError
      exact hOther.symm

/-
  In every reachable bench each slot is in its place and has
  the state of its type, which is none for a type that is not
  simulated. So the guard of a kind only lets states of that
  kind through, and whatever step comes next, none of its
  errors expects the type that it found.
-/
theorem reachable_slots_fit_their_types
    {bench : Bench n m}
    (hReach : bench.Reachable) :
    (∀ b i,
      (bench.slot b i).index = i ∧
      (bench.slot b i).state.kind? =
        (DeviceState.forType (bench.slot b i).deviceType).kind? ∧
      (∀ k : Kind,
        (bench.slot b i).deviceType = some k.deviceType →
          (bench.slot b i).state.deviceType? =
            (bench.slot b i).deviceType) ∧
      ((∀ k : Kind,
          (bench.slot b i).deviceType ≠ some k.deviceType) →
        (bench.slot b i).state = .empty)) ∧
    (∀ b i (k : Kind),
      ¬ ((bench.slot b i).validate k.deviceType = .ok () ∧
          (bench.slot b i).state.as? k = none)) ∧
    (∀ s expected actual place,
      .incorrectDevice expected actual place ∈
          (bench.step s).2.slotErrors →
        expected ≠ actual) := by
  have hBench := hReach.coherent
  refine ⟨?_, ?_, ?_⟩
  · intro b i
    have hSlot := hBench b i
    exact ⟨hSlot.index, hSlot.variant,
      fun _ hType => hSlot.deviceType?_eq hType,
      fun hType => hSlot.state_eq_empty hType⟩
  · intro b i k
    exact (hBench b i).not_mismatched k
  · intro s expected actual place hMember
    exact hBench.expected_ne_actual hMember

/- A device that is not simulated has no state, whatever its code. -/
theorem reachable_slots_fit_their_types_counterfeit :
    counterfeit.Reachable ∧
    (counterfeit.slot 0 ⟨4, by decide⟩).deviceType =
      some (.unknown 2) ∧
    (counterfeit.slot 0 ⟨4, by decide⟩).state = .empty := by
  have hSlots :=
    reachable_slots_fit_their_types counterfeit_reachable
  refine ⟨counterfeit_reachable, counterfeit_slot.2, ?_⟩
  apply (hSlots.1 0 ⟨4, by decide⟩).2.2.2
  intro k hType
  rw [counterfeit_slot.2] at hType
  cases k <;> cases hType

end Bench

end DeviceBay
