import DeviceBay.Proofs.Bench.Reachable
import DeviceBay.Proofs.Surface.Failure

/-
  This file says which steps of a bench are failing raw calls
  and which errors of slots a step brings up, and proves that
  a step reports a refusal exactly if it is such a call and
  that each error comes from a guard.

  Key definitions include:
    * `Bench.failure?`
    * `Outcome.refusals`
    * `Outcome.slotErrors`

  Main declarations:
    * `Bench.step_refusals`
    * `Bench.step_slotErrors`
-/

namespace DeviceBay

------------------------------------------------------------
-- Outcomes
------------------------------------------------------------

namespace Outcome

/- The reports of an outcome that a raw call failed. -/
def refusals
    (outcome : Outcome) : List Event :=
  outcome.events.filter Event.isRefusal

/- The error of a slot that a report is about. -/
def reported? : Event → Option SlotError
  | .guardFailed e => some e
  | _ => none

/- The error of a slot that an answer gives. -/
def answered? : Answer → Option SlotError
  | .failed f => f.slotError?
  | _ => none

/- All errors of slots that an outcome brings up. -/
def slotErrors
    (outcome : Outcome) : List SlotError :=
  (answered? outcome.answer).toList ++
    outcome.events.filterMap reported?

theorem mem_refusals_of_reported
    {outcome : Outcome}
    {event : Event}
    {e : SlotError}
    (hMember : event ∈ outcome.events)
    (hReported : reported? event = some e) :
    .guardFailed e ∈ outcome.refusals := by
  cases event <;> cases hReported
  exact List.mem_filter.mpr ⟨hMember, rfl⟩

end Outcome

namespace Bench

variable {n m : Nat}

------------------------------------------------------------
-- Refusals
------------------------------------------------------------

/-
  The surface of a failing raw call, and how the call fails.
  An installation fails only past the end of the bay, a call
  on a device as the slot behind its handle decides.
-/
def failure?
    (bench : Bench n m) :
    Step n m → Option (Fin m × RawFailure)
  | .surface s (.install i _) =>
      if i < slotCount then
        none
      else
        some (s, .guard (.outOfRange i))
  | .device s h c =>
      match bench.resolve s h with
      | none => none
      | some (b, i) =>
          (c.failure? (bench.slot b i)).map (fun f => (s, f))
  | _ => none

theorem refusals_of_looked
    {bench : Bench n m}
    {result : Bench n m × Outcome}
    (hLooked : bench.Looked result) :
    result.2.refusals = [] := by
  rw [Outcome.refusals, hLooked.events]
  rfl

theorem stepSlot_refusals
    (bench : Bench n m)
    (b : Fin n)
    (i : Nat)
    (c : SlotCall) :
    (bench.stepSlot b i c).2.refusals = [] := by
  unfold stepSlot
  split
  · rfl
  · exact c.run_quiet _ _ _

theorem stepSurface_refusals
    (bench : Bench n m)
    (s : Fin m)
    (c : SurfaceCall) :
    (bench.stepSurface s c).2.refusals =
      ((bench.failure? (.surface s c)).map
        (fun f => f.2.event)).toList := by
  cases c with
  | errno c => rfl
  | bayCount => rfl
  | describe => rfl
  | directory c => rfl
  | install i code =>
      by_cases hIndex : i < slotCount
      · simp only [stepSurface, Bay.index?_of_lt hIndex, failure?,
          if_pos hIndex]
        rfl
      · simp only [stepSurface, Bay.index?_of_not_lt hIndex,
          failure?, if_neg hIndex]
        rfl

theorem stepDevice_refusals
    {bench : Bench n m}
    (hBench : bench.Coherent)
    (s : Fin m)
    (h : Handle n)
    (c : DeviceCall) :
    (bench.stepDevice s h c).2.refusals =
      ((bench.failure? (.device s h c)).map
        (fun f => f.2.event)).toList := by
  simp only [stepDevice, failure?]
  cases hHandle : bench.resolve s h with
  | none => rfl
  | some place =>
      rcases place with ⟨b, i⟩
      have hFollows :=
        c.run_follows (bench.env b) bench.clock
          (bench.surface s).errno (hBench b i)
      simp only [Option.map_map]
      exact hFollows.refusals

/- A step reports a refusal exactly if it is a failing raw call. -/
theorem step_refusals
    {bench : Bench n m}
    (hBench : bench.Coherent)
    (s : Step n m) :
    (bench.step s).2.refusals =
      ((bench.failure? s).map (fun f => f.2.event)).toList := by
  cases s with
  | clock c => rfl
  | owner c => rfl
  | bay b c => exact refusals_of_looked (bench.stepBay_looked b c)
  | slot b i c => exact bench.stepSlot_refusals b i c
  | copy b i c =>
      exact refusals_of_looked (bench.stepCopy_looked b i c)
  | relation b i c =>
      exact refusals_of_looked (bench.stepRelation_looked b i c)
  | surface s c => exact bench.stepSurface_refusals s c
  | device s h c => exact stepDevice_refusals hBench s h c

------------------------------------------------------------
-- Errors of slots
------------------------------------------------------------

/- An error of an index, or of a guard that refuses right now. -/
def GuardError
    (bench : Bench n m)
    (e : SlotError) : Prop :=
  (∃ i, e = .outOfRange i) ∨
    ∃ b i t, (bench.slot b i).validate t = .error e

theorem guardError_of_failure?
    {bench : Bench n m}
    {s : Step n m}
    {t : Fin m}
    {e : SlotError}
    (hFailure : bench.failure? s = some (t, .guard e)) :
    bench.GuardError e := by
  cases s
  case surface u c =>
    cases c
    case install i code =>
      simp only [failure?] at hFailure
      split at hFailure
      · cases hFailure
      · cases hFailure
        exact Or.inl ⟨i, rfl⟩
    all_goals cases hFailure
  case device u h c =>
    simp only [failure?] at hFailure
    split at hFailure
    · cases hFailure
    · rename_i b i hHandle
      rcases Option.map_eq_some_iff.mp hFailure
        with ⟨f, hCall, hPair⟩
      cases hPair
      rcases DeviceCall.validate_of_failure? hCall
        with ⟨expected, hGuard⟩
      exact Or.inr ⟨b, i, expected, hGuard⟩
  all_goals cases hFailure

theorem stepSlot_answered
    {bench : Bench n m}
    {b : Fin n}
    {i : Nat}
    {c : SlotCall}
    {e : SlotError}
    (hBench : bench.Coherent)
    (hError :
      Outcome.answered? (bench.stepSlot b i c).2.answer =
        some e) :
    bench.GuardError e := by
  by_cases hIndex : i < slotCount
  · simp only [stepSlot, Bay.index?_of_lt hIndex] at hError
    cases hResult :
        (c.run (bench.env b) bench.clock
          (bench.slot b ⟨i, hIndex⟩)).result with
    | ok value =>
        rw [hResult] at hError
        cases hError
    | error f =>
        rw [hResult] at hError
        rcases SlotCall.validate_of_failed (bench.env b)
          bench.clock (hBench b ⟨i, hIndex⟩) hResult hError
          with ⟨t, hGuard⟩
        exact Or.inr ⟨b, ⟨i, hIndex⟩, t, hGuard⟩
  · simp only [stepSlot, Bay.index?_of_not_lt hIndex] at hError
    cases hError
    exact Or.inl ⟨i, rfl⟩

theorem stepCopy_answered
    {bench : Bench n m}
    {b : Fin n}
    {i : Nat}
    {c : CopyCall}
    {e : SlotError}
    (hError :
      Outcome.answered? (bench.stepCopy b i c).2.answer =
        some e) :
    bench.GuardError e := by
  by_cases hIndex : i < slotCount
  · simp only [stepCopy, Bay.index?_of_lt hIndex] at hError
    cases c with
    | save name => cases hError
    | compare name =>
        dsimp only at hError
        split at hError
        · cases hError
        · cases hError
  · simp only [stepCopy, Bay.index?_of_not_lt hIndex] at hError
    cases hError
    exact Or.inl ⟨i, rfl⟩

theorem stepRelation_answered
    {bench : Bench n m}
    {b : Fin n}
    {i : Nat}
    {c : HandleRelation n}
    {e : SlotError}
    (hError :
      Outcome.answered? (bench.stepRelation b i c).2.answer =
        some e) :
    bench.GuardError e := by
  by_cases hIndex : i < slotCount
  · simp only [stepRelation, Bay.index?_of_lt hIndex] at hError
    cases c with
    | deviceCount => cases hError
    | same other j =>
        by_cases hOther : j < slotCount
        · simp only [Bay.index?_of_lt hOther] at hError
          cases hError
        · simp only [Bay.index?_of_not_lt hOther] at hError
          cases hError
          exact Or.inl ⟨j, rfl⟩
  · simp only [stepRelation, Bay.index?_of_not_lt hIndex]
      at hError
    cases hError
    exact Or.inl ⟨i, rfl⟩

/- Raw calls answer values, so only the other steps give errors. -/
theorem step_answered
    {bench : Bench n m}
    {s : Step n m}
    {e : SlotError}
    (hBench : bench.Coherent)
    (hError :
      Outcome.answered? (bench.step s).2.answer = some e) :
    bench.GuardError e := by
  cases s with
  | clock c => cases hError
  | owner c => cases hError
  | bay b c => cases c <;> cases hError
  | slot b i c => exact stepSlot_answered hBench hError
  | copy b i c => exact stepCopy_answered hError
  | relation b i c => exact stepRelation_answered hError
  | surface s c =>
      cases c with
      | install i code =>
          simp only [step, stepSurface] at hError
          split at hError
          · cases hError
          · cases hError
      | errno c => cases hError
      | bayCount => cases hError
      | describe => cases hError
      | directory c => cases hError
  | device s h c =>
      simp only [step, stepDevice] at hError
      split at hError
      · cases hError
      · cases hError

/- Every error of a slot that a step brings up is a guard's. -/
theorem step_slotErrors
    {bench : Bench n m}
    {s : Step n m}
    {e : SlotError}
    (hBench : bench.Coherent)
    (hMember : e ∈ (bench.step s).2.slotErrors) :
    bench.GuardError e := by
  rcases List.mem_append.mp hMember with hAnswer | hReport
  · exact step_answered hBench (Option.mem_toList.mp hAnswer)
  · rcases List.mem_filterMap.mp hReport
      with ⟨event, hEvent, hReported⟩
    have hRefusal :=
      Outcome.mem_refusals_of_reported hEvent hReported
    rw [step_refusals hBench, Option.mem_toList] at hRefusal
    rcases Option.map_eq_some_iff.mp hRefusal
      with ⟨⟨t, f⟩, hFailure, hF⟩
    cases f with
    | code variant => cases hF
    | guard refusal =>
        cases hF
        exact guardError_of_failure? hFailure

end Bench

end DeviceBay
