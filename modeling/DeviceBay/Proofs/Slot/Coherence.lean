import DeviceBay.Bench.SlotCall
import DeviceBay.Proofs.Slot.Guard

/-
  This file defines when the state in a slot fits the type that
  was installed there, and proves that no operation on the slot
  can part the two.

  Key definitions include:
    * `DeviceState.kind?`
    * `Slot.Coherent`
    * `Slot.Change`

  Main declarations:
    * `SlotCall.run_change`
    * `Slot.Change.coherent`
    * `Slot.Coherent.stateOf`
    * `Slot.Coherent.not_mismatched`
-/

namespace DeviceBay

------------------------------------------------------------
-- Variants of states
------------------------------------------------------------

namespace DeviceState

/- The kind of device that a state belongs to, if to any. -/
def kind? : DeviceState → Option Kind
  | .empty => none
  | .of k _ => some k

theorem kind?_forType
    (t : Option DeviceType) :
    (forType t).kind? = t.bind Kind.ofType? := by
  cases t with
  | none => rfl
  | some t =>
      simp only [forType, Option.bind_some]
      cases Kind.ofType? t <;> rfl

theorem deviceType?_eq_map
    (state : DeviceState) :
    state.deviceType? = state.kind?.map Kind.deviceType := by
  cases state <;> rfl

theorem kind?_eq_none_iff
    (state : DeviceState) :
    state.kind? = none ↔ state = .empty := by
  cases state with
  | empty => simp [kind?]
  | of k state => simp [kind?]

theorem exists_of_kind?
    {state : DeviceState}
    {k : Kind}
    (hKind : state.kind? = some k) :
    ∃ inner, state = .of k inner := by
  cases state with
  | empty => cases hKind
  | of kind inner =>
      cases hKind
      exact ⟨inner, rfl⟩

end DeviceState

namespace Slot

------------------------------------------------------------
-- Coherent slots
------------------------------------------------------------

/-
  A slot knows its own place, and its state is of the variant
  that a device of its type has when it is installed.
-/
structure Coherent
    (i : SlotIndex)
    (slot : Slot) : Prop where
  index : slot.index = i
  variant :
    slot.state.kind? =
      (DeviceState.forType slot.deviceType).kind?

namespace Coherent

variable {i : SlotIndex} {slot : Slot}

theorem kind?_eq
    (hSlot : slot.Coherent i) :
    slot.state.kind? = slot.deviceType.bind Kind.ofType? :=
  hSlot.variant.trans (DeviceState.kind?_forType _)

/- The type of the state is that of the slot if it is simulated. -/
theorem deviceType?_eq
    (hSlot : slot.Coherent i)
    {k : Kind}
    (hType : slot.deviceType = some k.deviceType) :
    slot.state.deviceType? = slot.deviceType := by
  rw [DeviceState.deviceType?_eq_map, hSlot.kind?_eq, hType]
  simp

theorem state_eq_empty
    (hSlot : slot.Coherent i)
    (hType : ∀ k : Kind, slot.deviceType ≠ some k.deviceType) :
    slot.state = .empty := by
  apply (DeviceState.kind?_eq_none_iff _).mp
  rw [hSlot.kind?_eq]
  cases hKind : slot.deviceType.bind Kind.ofType? with
  | none => rfl
  | some k =>
      rcases Option.bind_eq_some_iff.mp hKind with
        ⟨t, hSome, hOfType⟩
      have hEq := (Kind.ofType?_eq_some_iff t k).mp hOfType
      rw [hEq] at hSome
      exact absurd hSome (hType k)

/- Behind the guard of a kind there is a state of that kind. -/
theorem stateOf
    (hSlot : slot.Coherent i)
    {k : Kind}
    (hType : slot.connectedType = some k.deviceType) :
    ∃ state, slot.stateOf k = .ok state := by
  have hDevice :=
    ((slot.connectedType_eq_some_iff _).mp hType).2
  have hKind : slot.state.kind? = some k := by
    rw [hSlot.kind?_eq, hDevice]
    simp
  rcases DeviceState.exists_of_kind? hKind with ⟨state, hState⟩
  exact ⟨state, (slot.stateOf_eq_ok_iff k state).mpr ⟨hType, hState⟩⟩

/- The guard never lets a state of another kind through. -/
theorem not_mismatched
    (hSlot : slot.Coherent i)
    (k : Kind) :
    ¬ (slot.validate k.deviceType = .ok () ∧
        slot.state.as? k = none) := by
  rintro ⟨hGuard, hNone⟩
  have hType := (slot.validate_eq_ok_iff _).mp hGuard
  rcases hSlot.stateOf hType with ⟨state, hStateOf⟩
  have hState := ((slot.stateOf_eq_ok_iff k state).mp hStateOf).2
  rw [hState, DeviceState.as?_of] at hNone
  cases hNone

end Coherent

------------------------------------------------------------
-- Changes
------------------------------------------------------------

/-
  All that an operation can do to a slot: nothing, a change of
  what is in it, or, past the guard, a new state of the same
  kind under a new timestamp.
-/
inductive Change
    (slot : Slot) : Slot → Prop
  | keep : Change slot slot
  | presence (c : PresenceCall) : Change slot (c.apply slot)
  | write (k : Kind) (before after : k.State) (now : Instant)
      (hState : slot.stateOf k = .ok before) :
      Change slot
        { slot with timestamp := now, state := .of k after }

theorem Change.coherent
    {before after : Slot}
    {i : SlotIndex}
    (hChange : Change before after)
    (hBefore : before.Coherent i) :
    after.Coherent i := by
  cases hChange with
  | keep => exact hBefore
  | presence c =>
      cases c with
      | install t => exact ⟨hBefore.index, rfl⟩
      | connect => exact ⟨hBefore.index, hBefore.variant⟩
      | disconnect => exact ⟨hBefore.index, hBefore.variant⟩
      | plugIn t => exact ⟨hBefore.index, rfl⟩
  | write k old new now hState =>
      have hOld := ((before.stateOf_eq_ok_iff k old).mp hState).2
      have hKind : before.state.kind? = some k := by
        rw [hOld]
        rfl
      exact ⟨hBefore.index, hKind.symm.trans hBefore.variant⟩

theorem update_change
    (slot : Slot)
    (clock : Clock)
    (k : Kind)
    (edit : k.State → k.State) :
    Change slot (slot.update clock k edit).slot := by
  cases hState : slot.stateOf k with
  | error e =>
      simp only [update, hState]
      exact .keep
  | ok before =>
      rw [update_of_state clock edit hState]
      exact .write k before (edit before) clock.now hState

end Slot

------------------------------------------------------------
-- Operations
------------------------------------------------------------

theorem MotorCall.run_change
    (env : Env)
    (clock : Clock)
    (slot : Slot)
    (c : MotorCall) :
    Slot.Change slot (c.run env clock slot).slot := by
  cases c with
  | ask q => exact .keep
  | tell c =>
      simp only [MotorCall.run, MotorCommand.run,
        Reply.map_slot, Reply.report_slot]
      exact slot.update_change clock .motor _
  | ignored c =>
      simp only [MotorCall.run, MotorIgnored.run,
        Reply.map_slot, Reply.report_slot, Reply.still_slot]
      exact .keep

theorem Imu.status_change
    (config : Config)
    (clock : Clock)
    (slot : Slot) :
    Slot.Change slot (Imu.status config clock slot).slot := by
  unfold Imu.status
  dsimp only
  split
  · exact .keep
  · exact .keep
  · split
    · exact .keep
    · simp only [Imu.finish, Reply.map_slot, Reply.report_slot]
      exact slot.update_change _ .imu _

theorem ImuCall.run_change
    (env : Env)
    (clock : Clock)
    (slot : Slot)
    (c : ImuCall) :
    Slot.Change slot (c.run env clock slot).slot := by
  cases c with
  | ask q => exact .keep
  | quaternion => exact .keep
  | mode => exact .keep
  | reset =>
      simp only [ImuCall.run, Imu.reset,
        Reply.map_slot, Reply.report_slot]
      exact slot.update_change _ .imu _
  | status => exact Imu.status_change env.config clock slot
  | isCalibrating => exact Imu.status_change env.config clock slot
  | ignored c =>
      simp only [ImuCall.run, ImuIgnored.run,
        Reply.map_slot, Reply.report_slot, Reply.still_slot]
      exact .keep

theorem SensorCall.run_change
    (clock : Clock)
    (slot : Slot)
    (c : SensorCall) :
    Slot.Change slot (c.run clock slot).slot := by
  cases c with
  | rotationPosition => exact .keep
  | setRotationPosition position =>
      exact slot.update_change clock .rotation _
  | resetRotationPosition =>
      exact slot.update_change clock .rotation _
  | distance => exact .keep
  | optical q => exact .keep
  | gps q => exact .keep
  | setGpsOffset offset =>
      exact slot.update_change clock .gps _

theorem LineCall.run_change
    (clock : Clock)
    (slot : Slot)
    (c : LineCall) :
    Slot.Change slot (c.run clock slot).slot := by
  cases c with
  | mode line => exact .keep
  | setMode line use =>
      simp only [LineCall.run, Expander.setLineMode,
        Reply.map_slot]
      split
      · exact slot.update_change clock .expander _
      · exact .keep

theorem SlotCall.run_change
    (env : Env)
    (clock : Clock)
    (slot : Slot)
    (c : SlotCall) :
    Slot.Change slot (c.run env clock slot).slot := by
  cases c with
  | presence c => exact .presence c
  | handle c => exact .keep
  | validate expected => exact .keep
  | peek k => exact .keep
  | publish k edit meanwhile =>
      simp only [SlotCall.run, Reply.mapError_slot,
        Reply.map_slot, Slot.publish_slot]
      exact slot.update_change clock k edit
  | check expected q => exact .keep
  | motor c => exact c.run_change env clock slot
  | imu c => exact c.run_change env clock slot
  | sensor c => exact c.run_change clock slot
  | line c => exact c.run_change clock slot
  | link id role c => exact .keep

end DeviceBay
