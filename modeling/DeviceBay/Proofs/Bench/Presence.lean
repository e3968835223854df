import DeviceBay.Proofs.Bay.Census
import DeviceBay.Proofs.Bench.History

/-
  This file proves what decides over any run which devices are
  in a bay. Whether a device is there and of what type it is
  are two registers of a slot, and each is as the last step
  left it that is meant for it. All questions about the bay
  answer from these registers.

  Key definitions include:
    * `PresenceCall.presence?`
    * `PresenceCall.type?`
    * `Moment.presenceCall?`
    * `Moment.presence?`
    * `Moment.type?`
    * `Bench.Census`
    * `Bench.OutOfRange`

  Main declarations:
    * `Moment.presenceCall?_eq_some_iff`
    * `Bench.History.slot_disconnected`
    * `Bench.devices_tell_the_last_presence`
-/

namespace DeviceBay

------------------------------------------------------------
-- Presence calls
------------------------------------------------------------

namespace PresenceCall

/- Whether the device is there from now on, if the call says. -/
def presence? : PresenceCall → Option Bool
  | .install _ => none
  | .connect => some true
  | .disconnect => some false
  | .plugIn _ => some true

/- The type that the slot has from now on, if the call says. -/
def type? : PresenceCall → Option (Option DeviceType)
  | .install t => some t
  | .connect => none
  | .disconnect => none
  | .plugIn t => some (some t)

theorem apply_present
    (slot : Slot)
    (c : PresenceCall) :
    (c.apply slot).present = c.presence?.getD slot.present := by
  cases c <;> rfl

theorem apply_deviceType
    (slot : Slot)
    (c : PresenceCall) :
    (c.apply slot).deviceType = c.type?.getD slot.deviceType := by
  cases c <;> rfl

end PresenceCall

/- Nothing reaches the state of a device that is not there. -/
theorem Effect.apply_of_absent
    {slot : Slot}
    {effect : Effect}
    (hAbsent : slot.present = false)
    (hStays : effect.Stays) :
    effect.apply slot = slot := by
  cases effect with
  | nothing => rfl
  | presence c => cases hStays
  | update clock k edit =>
      have hVacant : slot.connectedType = none :=
        slot.connectedType_eq_none_iff.mpr (Or.inl hAbsent)
      have hRefused := Slot.validate_of_vacant k.deviceType hVacant
      exact Slot.update_slot_of_error clock edit
        (Slot.stateOf_of_refused hRefused)

------------------------------------------------------------
-- Moments
------------------------------------------------------------

namespace Moment

variable {n m : Nat} {b : Fin n} {i : SlotIndex}

/- The change that a moment makes of what is in one slot. -/
def presenceCall?
    (b : Fin n)
    (i : SlotIndex)
    (x : Moment n m) : Option PresenceCall :=
  match x.callOn? b i with
  | some (.presence c) => some c
  | _ => none

/- What a moment decides about whether a device is there. -/
def presence?
    (b : Fin n)
    (i : SlotIndex)
    (x : Moment n m) : Option Bool :=
  (x.presenceCall? b i).bind PresenceCall.presence?

/- What a moment decides about the type of the device. -/
def type?
    (b : Fin n)
    (i : SlotIndex)
    (x : Moment n m) : Option (Option DeviceType) :=
  (x.presenceCall? b i).bind PresenceCall.type?

theorem callOn?_of_presenceCall?
    {x : Moment n m}
    {c : PresenceCall}
    (hPresence : x.presenceCall? b i = some c) :
    x.callOn? b i = some (.presence c) := by
  unfold presenceCall? at hPresence
  split at hPresence
  · rename_i call hCall
    cases hPresence
    exact hCall
  · cases hPresence

theorem presenceCall?_of_callOn?
    {x : Moment n m}
    {c : PresenceCall}
    (hCall : x.callOn? b i = some (.presence c)) :
    x.presenceCall? b i = some c := by
  rw [presenceCall?, hCall]

/-
  What is in a slot is changed through its bay, or by a raw
  surface of that bay, which can only install.
-/
theorem presenceCall?_eq_some_iff
    (b : Fin n)
    (i : SlotIndex)
    (x : Moment n m)
    (c : PresenceCall) :
    x.presenceCall? b i = some c ↔
      x.step = .slot b i (.presence c) ∨
        ∃ s code,
          x.step = .surface s (.install i code) ∧
            (x.bench.surface s).bay = b ∧
            c = .install (DeviceType.ofCode? code) := by
  rcases x with ⟨bench, step⟩
  constructor
  · intro hPresence
    have hCall := callOn?_of_presenceCall? hPresence
    have hTarget := (bench.callOn?_eq_some_iff b i step _).mp hCall
    rcases Bench.cases_of_target? hTarget with
      hSlot | ⟨s, code, hSurface, hBay, hInstall⟩ |
        ⟨s, h, raw, _, _, hDriver⟩
    · exact Or.inl hSlot
    · cases hInstall
      exact Or.inr ⟨s, code, hSurface, hBay, rfl⟩
    · rcases DeviceCall.cases_of_driverCall? hDriver with
        ⟨call, hCall⟩ | ⟨call, hCall⟩
      · cases hCall
      · cases hCall
  · intro hStep
    apply presenceCall?_of_callOn?
    apply (bench.callOn?_eq_some_iff b i step _).mpr
    rcases hStep with hSlot | ⟨s, code, hSurface, hBay, hInstall⟩
    · dsimp only at hSlot
      subst hSlot
      simp [Bench.target?]
    · dsimp only at hSurface hBay
      subst hSurface hBay hInstall
      simp [Bench.target?]

theorem slot_after_of_presenceCall?
    {x : Moment n m}
    {c : PresenceCall}
    (hPresence : x.presenceCall? b i = some c) :
    x.after.slot b i = c.apply (x.bench.slot b i) :=
  slot_after (callOn?_of_presenceCall? hPresence)

/- All other moments have an effect that leaves the device there. -/
theorem exists_stays_of_presenceCall?
    {x : Moment n m}
    (hPresence : x.presenceCall? b i = none) :
    ∃ effect : Effect,
      effect.Stays ∧
        x.after.slot b i = effect.apply (x.bench.slot b i) := by
  cases hCall : x.callOn? b i with
  | none => exact ⟨.nothing, trivial, slot_after_of_none hCall⟩
  | some c =>
      refine ⟨_, ?_, slot_after hCall⟩
      apply c.effect_stays
      rintro ⟨p, rfl⟩
      rw [presenceCall?_of_callOn? hCall] at hPresence
      cases hPresence

theorem present_after
    (b : Fin n)
    (i : SlotIndex)
    (x : Moment n m) :
    (x.after.slot b i).present =
      (x.presence? b i).getD (x.bench.slot b i).present := by
  unfold presence?
  cases hPresence : x.presenceCall? b i with
  | none =>
      rcases exists_stays_of_presenceCall? hPresence with
        ⟨effect, hStays, hSlot⟩
      rw [hSlot]
      exact Effect.apply_present _ hStays
  | some c =>
      rw [slot_after_of_presenceCall? hPresence]
      exact c.apply_present _

theorem deviceType_after
    (b : Fin n)
    (i : SlotIndex)
    (x : Moment n m) :
    (x.after.slot b i).deviceType =
      (x.type? b i).getD (x.bench.slot b i).deviceType := by
  unfold type?
  cases hPresence : x.presenceCall? b i with
  | none =>
      rcases exists_stays_of_presenceCall? hPresence with
        ⟨effect, hStays, hSlot⟩
      rw [hSlot]
      exact Effect.apply_deviceType _ hStays
  | some c =>
      rw [slot_after_of_presenceCall? hPresence]
      exact c.apply_deviceType _

/- An absent device stays as it is until it is there again. -/
theorem slot_after_of_absent
    {x : Moment n m}
    (hAbsent : (x.bench.slot b i).present = false)
    (hInstalls : x.installs b i = false)
    (hConnect : x.presenceCall? b i ≠ some .connect) :
    x.after.slot b i = x.bench.slot b i := by
  cases hPresence : x.presenceCall? b i with
  | none =>
      rcases exists_stays_of_presenceCall? hPresence with
        ⟨effect, hStays, hSlot⟩
      rw [hSlot]
      exact Effect.apply_of_absent hAbsent hStays
  | some c =>
      rw [installs_of_callOn? (callOn?_of_presenceCall? hPresence)]
        at hInstalls
      rw [slot_after_of_presenceCall? hPresence]
      cases c with
      | install t => cases hInstalls
      | plugIn t => cases hInstalls
      | connect => exact absurd hPresence hConnect
      | disconnect =>
          rw [PresenceCall.apply, Slot.disconnect, ← hAbsent]

theorem type?_of_keeps
    {x : Moment n m}
    (hInstalls : x.installs b i = false) :
    x.type? b i = none := by
  unfold type?
  cases hPresence : x.presenceCall? b i with
  | none => rfl
  | some c =>
      rw [installs_of_callOn? (callOn?_of_presenceCall? hPresence)]
        at hInstalls
      cases c with
      | install t => cases hInstalls
      | plugIn t => cases hInstalls
      | connect => rfl
      | disconnect => rfl

end Moment

namespace Bench

variable {n m : Nat}

------------------------------------------------------------
-- Questions about a bay
------------------------------------------------------------

/-
  What a bay answers to all questions about its devices, if
  each slot has the device of a type or none: the questions
  agree with each other and with the slots.
-/
structure Census
    (bench : Bench n m)
    (b : Fin n)
    (types : SlotIndex → Option DeviceType) : Prop where
  there :
    ∀ i t,
      types i = some t ↔
        (bench.slot b i).present = true ∧
          (bench.slot b i).deviceType = some t
  status :
    (bench.step (.bay b .status)).2.answer =
      .value
        (.deviceTypes ((List.finRange slotCount).map types))
  handle :
    ∀ i : SlotIndex,
      (bench.step (.slot b i (.handle .connectedType))).2.answer =
        .value (.deviceType (types i))
  countByType :
    ∀ t,
      (bench.step (.bay b (.countByType t))).2.answer =
        .value
          (.nat (Finset.card {i : SlotIndex | types i = some t}))
  count :
    (bench.step (.bay b .count)).2.answer =
      .value
        (.nat
          (Finset.card
            {i : SlotIndex | (types i).isSome = true}))
  sum :
    Finset.card {i : SlotIndex | (types i).isSome = true} =
      ∑ t ∈ (bench.bay b).types,
        Finset.card {i : SlotIndex | types i = some t}

theorem census
    (bench : Bench n m)
    (b : Fin n) :
    bench.Census b (fun i => (bench.slot b i).connectedType) := by
  constructor
  case there =>
    intro i t
    exact (bench.slot b i).connectedType_eq_some_iff t
  case status =>
    exact congrArg (fun types => Answer.value (.deviceTypes types))
      (bench.bay b).status_toList
  case handle =>
    intro i
    rw [stepSlot_eq rfl]
    rfl
  case countByType =>
    intro t
    exact congrArg (fun count => Answer.value (.nat count))
      ((bench.bay b).countByType_eq_card t)
  case count =>
    exact congrArg (fun count => Answer.value (.nat count))
      (bench.bay b).count_eq_card
  case sum => exact (bench.bay b).card_occupied_eq_sum

/-
  What becomes of all uses of a slot that a bay does not have:
  they fail with its number and change nothing. A raw surface
  leaves the code of the failure in its error cell.
-/
structure OutOfRange
    (bench : Bench n m)
    (b : Fin n)
    (i : Nat) : Prop where
  slot :
    ∀ c,
      bench.step (.slot b i c) =
        (bench, { answer := .failed (.slot (.outOfRange i)) })
  copy :
    ∀ c,
      bench.step (.copy b i c) =
        (bench, { answer := .failed (.slot (.outOfRange i)) })
  relation :
    ∀ c,
      bench.step (.relation b i c) =
        (bench, { answer := .failed (.slot (.outOfRange i)) })
  install :
    ∀ s code,
      bench.step (.surface s (.install i code)) =
        (bench.setErrno s .invalidArgument,
          { answer := .raw .unit .invalidArgument
            events := [.guardFailed (.outOfRange i)] })

theorem outOfRange
    (bench : Bench n m)
    (b : Fin n)
    {i : Nat}
    (hIndex : ¬ i < slotCount) :
    bench.OutOfRange b i := by
  have hNone := Bay.index?_of_not_lt hIndex
  constructor
  case slot =>
    intro c
    simp only [step, stepSlot, hNone]
  case copy =>
    intro c
    simp only [step, stepCopy, hNone]
  case relation =>
    intro c
    simp only [step, stepRelation, hNone]
  case install =>
    intro s code
    simp only [step, stepSurface, hNone]
    rfl

------------------------------------------------------------
-- Histories
------------------------------------------------------------

section Histories

variable {past before between after : List (Moment n m)}
variable {bench : Bench n m} {x y : Moment n m}
variable {b : Fin n} {i : SlotIndex}

theorem History.present_eq_last_write
    (hPast : History past bench)
    (b : Fin n)
    (i : SlotIndex) :
    (bench.slot b i).present =
      (lastWrite? (Moment.presence? b i) past).getD false := by
  apply hPast.eq_last_write_ever
    (f := fun bench => (bench.slot b i).present)
  · intro clock configs views
    rw [fresh_slot]
  · intro x _
    exact x.present_after b i
  · intro bench clock
    rfl

theorem History.deviceType_eq_last_write
    (hPast : History past bench)
    (b : Fin n)
    (i : SlotIndex) :
    (bench.slot b i).deviceType =
      (lastWrite? (Moment.type? b i) past).getD none := by
  apply hPast.eq_last_write_ever
    (f := fun bench => (bench.slot b i).deviceType)
  · intro clock configs views
    rw [fresh_slot]
  · intro x _
    exact x.deviceType_after b i
  · intro bench clock
    rfl

/- The type outlives any time that the device is not there. -/
theorem History.deviceType_kept
    (hPast : History (before ++ x :: between) bench)
    (hFirst : x.installs b i = false)
    (hBetween : ∀ z ∈ between, z.installs b i = false) :
    (bench.slot b i).deviceType =
      (x.bench.slot b i).deviceType := by
  apply hPast.holds_since
    (P := fun bench =>
      (bench.slot b i).deviceType = (x.bench.slot b i).deviceType)
  · rw [x.deviceType_after b i, Moment.type?_of_keeps hFirst]
    rfl
  · intro z hMember _ hKept
    rw [z.deviceType_after b i,
      Moment.type?_of_keeps (hBetween z hMember)]
    exact hKept
  · intro bench clock hKept
    exact hKept

/- A device that is taken away stays as it was all the while. -/
theorem History.slot_disconnected
    (hPast : History (before ++ x :: between) bench)
    (hAway : x.presenceCall? b i = some .disconnect)
    (hBetween :
      ∀ z ∈ between,
        z.installs b i = false ∧
          z.presenceCall? b i ≠ some .connect) :
    bench.slot b i = (x.bench.slot b i).disconnect := by
  apply hPast.holds_since
    (P := fun bench =>
      bench.slot b i = (x.bench.slot b i).disconnect)
  · exact Moment.slot_after_of_presenceCall? hAway
  · intro z hMember _ hKept
    have hAbsent : (z.bench.slot b i).present = false := by
      rw [hKept]
      rfl
    rcases hBetween z hMember with ⟨hInstalls, hConnect⟩
    rw [Moment.slot_after_of_absent hAbsent hInstalls hConnect]
    exact hKept
  · intro bench clock hKept
    exact hKept

/-
  Whether a device is there, and its type, are each what the
  last step decided that was meant for it, and no other step
  changes either. A device that is taken away and brought back
  is as it was, unless another one was put in meanwhile. All
  questions about the bay answer from there, and a slot that
  the bay does not have answers nothing else than that.
-/
theorem devices_tell_the_last_presence
    (hPast : History past bench)
    (b : Fin n) :
    (∀ i,
      (bench.slot b i).present =
          (lastWrite? (Moment.presence? b i) past).getD false ∧
        (bench.slot b i).deviceType =
          (lastWrite? (Moment.type? b i) past).getD none) ∧
    bench.Census b
      (fun i =>
        if (lastWrite? (Moment.presence? b i) past).getD false then
          (lastWrite? (Moment.type? b i) past).getD none
        else
          none) ∧
    (∀ (i : SlotIndex) (x : Moment n m),
      (∀ c,
        x.presenceCall? b i = some c ↔
          x.step = .slot b i (.presence c) ∨
            ∃ s code,
              x.step = .surface s (.install i code) ∧
                (x.bench.surface s).bay = b ∧
                c = .install (DeviceType.ofCode? code)) ∧
      (x.presenceCall? b i = none →
        (x.after.slot b i).present =
            (x.bench.slot b i).present ∧
          (x.after.slot b i).deviceType =
            (x.bench.slot b i).deviceType)) ∧
    (∀ i before x between y after,
      past = before ++ x :: between ++ y :: after →
      x.presenceCall? b i = some .disconnect →
      y.presenceCall? b i = some .connect →
      (∀ z ∈ between, z.installs b i = false) →
      (y.after.slot b i).deviceType =
          (x.bench.slot b i).deviceType ∧
        ((∀ z ∈ between, z.presenceCall? b i ≠ some .connect) →
          y.after.slot b i = (x.bench.slot b i).connect)) ∧
    (∀ i, ¬ i < slotCount → bench.OutOfRange b i) := by
  have hPresent := fun i => hPast.present_eq_last_write b i
  have hType := fun i => hPast.deviceType_eq_last_write b i
  refine ⟨fun i => ⟨hPresent i, hType i⟩, ?_, ?_, ?_, ?_⟩
  · have hCensus := bench.census b
    simp only [Slot.connectedType, hPresent, hType] at hCensus
    exact hCensus
  · intro i x
    refine ⟨x.presenceCall?_eq_some_iff b i, ?_⟩
    intro hPresence
    rw [x.present_after, x.deviceType_after, Moment.presence?,
      Moment.type?, hPresence]
    exact ⟨rfl, rfl⟩
  · intro i before x between y after hSplit hAway hBack hKeeps
    rw [hSplit] at hPast
    have hUpTo := hPast.upTo
    have hAfter := Moment.slot_after_of_presenceCall? hBack
    constructor
    · have hFirst : x.installs b i = false :=
        Moment.installs_of_callOn?
          (Moment.callOn?_of_presenceCall? hAway)
      rw [hAfter]
      exact hUpTo.deviceType_kept hFirst hKeeps
    · intro hNoConnect
      have hGone := hUpTo.slot_disconnected hAway
        (fun z hMember => ⟨hKeeps z hMember, hNoConnect z hMember⟩)
      rw [hAfter, hGone]
      rfl
  · exact fun i hIndex => bench.outOfRange b hIndex

end Histories

/-
  A motor that is taken away and brought back, and a sensor
  whose type a raw surface takes away.
-/
def replugged
    (b : Fin n)
    (s : Fin m) : List (Step n m) :=
  [.slot b 2 (.presence (.plugIn .motor)),
    .slot b 3 (.presence (.plugIn .imu)),
    .slot b 2 (.presence .disconnect),
    .slot b 2 (.motor (.tell (.setVelocity 100))),
    .slot b 2 (.presence .connect),
    .surface s (.install 3 DeviceType.noDeviceCode)]

/- The motor is all that is left. -/
theorem devices_tell_the_last_presence_replugged :
    let origin : Bench 1 1 :=
      Bench.fresh (.manual ⟨7⟩) (Vector.replicate 1 {}) #v[0]
    let bench := (origin.run (replugged 0 0)).1
    bench.Census 0 (fun i => if i.val = 2 then some .motor else none) ∧
    bench.OutOfRange 0 32 := by
  intro origin bench
  have hPast : History (origin.moments (replugged 0 0)) bench :=
    (History.fresh _ _ _).run (replugged 0 0)
  have hTypes :
      ∀ i : SlotIndex,
        (if (lastWrite? (Moment.presence? 0 i)
            (origin.moments (replugged 0 0))).getD false then
          (lastWrite? (Moment.type? 0 i)
            (origin.moments (replugged 0 0))).getD none
        else
          none) =
          if i.val = 2 then some .motor else none := by
    decide +kernel
  rcases devices_tell_the_last_presence hPast 0 with
    ⟨_, hCensus, _, _, hOutOfRange⟩
  simp only [hTypes] at hCensus
  exact ⟨hCensus, hOutOfRange 32 (by decide)⟩

end Bench

end DeviceBay
