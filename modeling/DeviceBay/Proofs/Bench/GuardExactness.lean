import DeviceBay.Proofs.Bench.Reachable
import DeviceBay.Proofs.Slot.Guarded

/-
  This file proves that the guard is exact: an operation that
  demands a device succeeds if and only if such a device is
  there, and otherwise fails with the error that says what is
  there instead, without a change to any slot.

  Key definitions include:
    * `Outcome.Succeeds`
    * `Bench.GuardsExactly`
    * `Bench.Sealed`
    * `Bench.Unsealed`

  Main declarations:
    * `Bench.Coherent.guardsExactly`
    * `Bench.sealed_of_refused`
    * `Bench.guarded_steps_succeed_exactly`
-/

namespace DeviceBay

/- An outcome with an answer that is no failure. -/
def Outcome.Succeeds
    (outcome : Outcome) : Prop :=
  ∃ value, outcome.answer = .value value

namespace Bench

variable {n m : Nat}

------------------------------------------------------------
-- Outcomes of guarded steps
------------------------------------------------------------

section Steps

variable {bench : Bench n m} {b : Fin n} {i : SlotIndex}
variable {c : SlotCall} {t : DeviceType}

theorem stepSlot_of_admitted
    (hBench : bench.Coherent)
    (hGuard : c.guard? = some t)
    (hType : (bench.slot b i).connectedType = some t) :
    (bench.step (.slot b i c)).2.Succeeds := by
  have hRun := c.run_of_admitted (bench.env b) bench.clock
    (hBench b i) hGuard hType
  rcases hRun with ⟨value, hValue⟩
  refine ⟨value, ?_⟩
  rw [stepSlot_eq rfl, hValue]
  rfl

theorem stepSlot_of_refused
    {e : SlotError}
    (hGuard : c.guard? = some t)
    (hRefused : (bench.slot b i).validate t = .error e) :
    (bench.step (.slot b i c)).2.answer = .failed (c.wrap e) ∧
      (bench.step (.slot b i c)).1.bays = bench.bays := by
  have hRun := SlotCall.run_of_refused (bench.env b) bench.clock
    hGuard hRefused
  rcases hRun with ⟨hResult, hSlot⟩
  rw [stepSlot_eq rfl, hResult]
  exact ⟨rfl, setSlot_bays_of_eq bench b i hSlot⟩

/- The guard of the type decides whether the step succeeds. -/
theorem stepSlot_succeeds_iff
    (hBench : bench.Coherent)
    (hGuard : c.guard? = some t) :
    (bench.step (.slot b i c)).2.Succeeds ↔
      (bench.slot b i).connectedType = some t := by
  by_cases hType : (bench.slot b i).connectedType = some t
  · have hSucceeds := stepSlot_of_admitted hBench hGuard hType
    simp only [hSucceeds, hType]
  · rcases Slot.exists_refusal_of_ne hType with ⟨e, hRefused⟩
    have hFailed := (stepSlot_of_refused hGuard hRefused).1
    simp only [hType, iff_false]
    rintro ⟨value, hValue⟩
    cases hValue.symm.trans hFailed

theorem stepSlot_isConnected
    (bench : Bench n m)
    (b : Fin n)
    (i : SlotIndex)
    (t : DeviceType) :
    (bench.step (.slot b i (.check t .isConnected))).2.answer =
      .value (.bool ((bench.slot b i).holds t)) := by
  rw [stepSlot_eq rfl]
  rfl

end Steps

------------------------------------------------------------
-- Exactness
------------------------------------------------------------

/-
  All that the guard for devices of a type has to say about an
  operation on a slot: when the operation succeeds, which error
  it gives when it does not, that a failure changes no slot,
  and that the questions about the device agree with it.
-/
structure GuardsExactly
    (bench : Bench n m)
    (b : Fin n)
    (i : SlotIndex)
    (c : SlotCall)
    (t : DeviceType) : Prop where
  succeeds_iff :
    (bench.step (.slot b i c)).2.Succeeds ↔
      (bench.slot b i).present = true ∧
        (bench.slot b i).deviceType = some t
  disconnected :
    (bench.slot b i).present = false ∨
        (bench.slot b i).deviceType = none →
      (bench.step (.slot b i c)).2.answer =
        .failed (c.wrap (.disconnected i))
  incorrect :
    ∀ actual,
      (bench.slot b i).present = true →
      (bench.slot b i).deviceType = some actual →
      actual ≠ t →
        (bench.step (.slot b i c)).2.answer =
          .failed (c.wrap (.incorrectDevice t actual i))
  unchanged :
    ¬ (bench.step (.slot b i c)).2.Succeeds →
      (bench.step (.slot b i c)).1.bays = bench.bays
  connected_iff :
    (bench.step (.slot b i c)).2.Succeeds ↔
      (bench.step (.slot b i (.check t .isConnected))).2.answer =
        .value (.bool true)
  validated_iff :
    (bench.step (.slot b i c)).2.Succeeds ↔
      (bench.step (.slot b i (.check t .validate))).2.Succeeds

theorem Coherent.guardsExactly
    {bench : Bench n m}
    (hBench : bench.Coherent)
    (b : Fin n)
    (i : SlotIndex)
    {c : SlotCall}
    {t : DeviceType}
    (hGuard : c.guard? = some t) :
    bench.GuardsExactly b i c t := by
  have hIndex := (hBench b i).index
  have hSucceeds :=
    stepSlot_succeeds_iff (b := b) (i := i) hBench hGuard
  constructor
  case succeeds_iff =>
    rw [hSucceeds]
    exact (bench.slot b i).connectedType_eq_some_iff t
  case disconnected =>
    intro hVacant
    have hType :=
      ((bench.slot b i).connectedType_eq_none_iff).mpr hVacant
    have hRefused := Slot.validate_of_vacant t hType
    rw [hIndex] at hRefused
    exact (stepSlot_of_refused hGuard hRefused).1
  case incorrect =>
    intro actual hPresent hActual hOther
    have hType :=
      ((bench.slot b i).connectedType_eq_some_iff actual).mpr
        ⟨hPresent, hActual⟩
    have hRefused := Slot.validate_of_other hType hOther
    rw [hIndex] at hRefused
    exact (stepSlot_of_refused hGuard hRefused).1
  case unchanged =>
    intro hFailed
    rw [hSucceeds] at hFailed
    rcases Slot.exists_refusal_of_ne hFailed with ⟨e, hRefused⟩
    exact (stepSlot_of_refused hGuard hRefused).2
  case connected_iff =>
    rw [hSucceeds, stepSlot_isConnected, ← Slot.holds_eq_true_iff]
    simp
  case validated_iff =>
    rw [hSucceeds, stepSlot_succeeds_iff (t := t) hBench rfl]

------------------------------------------------------------
-- Closures
------------------------------------------------------------

/-
  A state that is out of reach. What comes of an operation that
  would hand it to a closure does not depend on the closure,
  which is never called.
-/
structure Sealed
    (bench : Bench n m)
    (b : Fin n)
    (i : SlotIndex)
    (k : Kind) : Prop where
  publish :
    ∃ outcome, ∀ edit meanwhile,
      bench.step (.slot b i (.publish k edit meanwhile)) =
        (bench, outcome)
  look :
    ∃ e, ∀ (α : Type) (f : k.State → Instant → α),
      (bench.slot b i).look k f = .error e

/- A state within reach, which every closure is called on. -/
structure Unsealed
    (bench : Bench n m)
    (b : Fin n)
    (i : SlotIndex)
    (k : Kind) : Prop where
  publish :
    ∀ edit meanwhile,
      (bench.step
        (.slot b i (.publish k edit meanwhile))).2.Succeeds
  look :
    ∃ state, ∀ (α : Type) (f : k.State → Instant → α),
      (bench.slot b i).look k f =
        .ok (f state (bench.slot b i).timestamp)

theorem sealed_of_refused
    {bench : Bench n m}
    {b : Fin n}
    {i : SlotIndex}
    {k : Kind}
    {e : SlotError}
    (hRefused :
      (bench.slot b i).validate k.deviceType = .error e) :
    bench.Sealed b i k := by
  constructor
  case publish =>
    refine ⟨{ answer := .failed (.slot e) }, ?_⟩
    intro edit meanwhile
    have hRun :
        (SlotCall.publish k edit meanwhile).run (bench.env b)
            bench.clock (bench.slot b i) =
          .still (bench.slot b i) bench.clock
            (.error (.slot e)) := by
      rw [SlotCall.run,
        Slot.publish_of_refused bench.clock edit meanwhile
          hRefused]
      rfl
    rw [stepSlot_eq hRun]
    simp only [settle, Reply.still_slot, setSlot_slot]
    rfl
  case look =>
    exact ⟨e, fun _ f => Slot.look_of_refused f hRefused⟩

theorem Coherent.unsealed
    {bench : Bench n m}
    (hBench : bench.Coherent)
    {b : Fin n}
    {i : SlotIndex}
    {k : Kind}
    (hType :
      (bench.slot b i).connectedType = some k.deviceType) :
    bench.Unsealed b i k := by
  constructor
  case publish =>
    intro edit meanwhile
    exact stepSlot_of_admitted hBench rfl hType
  case look =>
    rcases (hBench b i).stateOf hType with ⟨state, hState⟩
    exact ⟨state, fun _ f => Slot.look_of_state f hState⟩

------------------------------------------------------------
-- Reachable benches
------------------------------------------------------------

/-
  In every reachable bench an operation that demands a device
  of a type succeeds exactly if one is there. If it fails, it
  says why, and it has changed no slot, nor has any operation
  that hands out the state called a closure.
-/
theorem guarded_steps_succeed_exactly
    {bench : Bench n m}
    (hReach : bench.Reachable)
    (b : Fin n)
    (i : SlotIndex)
    {c : SlotCall}
    {t : DeviceType}
    (hGuard : c.guard? = some t) :
    bench.GuardsExactly b i c t ∧
    (∀ k : Kind,
      k.deviceType = t →
      ((bench.step (.slot b i c)).2.Succeeds →
        bench.Unsealed b i k) ∧
      (¬ (bench.step (.slot b i c)).2.Succeeds →
        bench.Sealed b i k)) := by
  have hBench := hReach.coherent
  refine ⟨hBench.guardsExactly b i hGuard, ?_⟩
  intro k hKind
  subst hKind
  rw [stepSlot_succeeds_iff hBench hGuard]
  constructor
  · intro hType
    exact hBench.unsealed hType
  · intro hType
    rcases Slot.exists_refusal_of_ne hType with ⟨e, hRefused⟩
    exact sealed_of_refused hRefused

/- A motor is not taken for one because of its code. -/
theorem guarded_steps_succeed_exactly_counterfeit :
    counterfeit.Reachable ∧
    (counterfeit.step
      (.slot 0 4 (.motor (.tell .resetPosition)))).2.answer =
        .failed
          (.slot (.incorrectDevice .motor (.unknown 2) 4)) ∧
    counterfeit.Sealed 0 ⟨4, by decide⟩ .motor := by
  have hExact :=
    guarded_steps_succeed_exactly counterfeit_reachable 0
      ⟨4, by decide⟩ (c := .motor (.tell .resetPosition)) rfl
  refine ⟨counterfeit_reachable, ?_, ?_⟩
  · exact hExact.1.incorrect (.unknown 2) counterfeit_slot.1
      counterfeit_slot.2 nofun
  · apply (hExact.2 .motor rfl).2
    rw [hExact.1.succeeds_iff, counterfeit_slot.2]
    rintro ⟨hPresent, hType⟩
    cases hType

end Bench

end DeviceBay
