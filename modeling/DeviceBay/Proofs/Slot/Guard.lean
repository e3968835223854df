import DeviceBay.Slot.Access

/-
  This file proves what the guard of a slot lets through, and
  that looking at a state and updating it do nothing at all
  when the guard refuses.

  Main declarations:
    * `Slot.connectedType_eq_some_iff`
    * `Slot.validate_of_vacant`
    * `Slot.validate_of_other`
    * `Slot.stateOf_eq_ok_iff`
    * `Slot.look_of_refused`
    * `Slot.update_of_refused`
-/

namespace DeviceBay

------------------------------------------------------------
-- Replies
------------------------------------------------------------

namespace Reply

variable {ε δ α β : Type}

@[simp]
theorem still_slot
    (slot : Slot)
    (clock : Clock)
    (result : Except ε α) :
    (still slot clock result).slot = slot :=
  rfl

@[simp]
theorem map_still
    (f : α → β)
    (slot : Slot)
    (clock : Clock)
    (result : Except ε α) :
    (still slot clock result).map f =
      still slot clock (result.map f) :=
  rfl

@[simp]
theorem map_result
    (f : α → β)
    (reply : Reply ε α) :
    (reply.map f).result = reply.result.map f :=
  rfl

@[simp]
theorem map_slot
    (f : α → β)
    (reply : Reply ε α) :
    (reply.map f).slot = reply.slot :=
  rfl

@[simp]
theorem map_events
    (f : α → β)
    (reply : Reply ε α) :
    (reply.map f).events = reply.events :=
  rfl

@[simp]
theorem map_readings
    (f : α → β)
    (reply : Reply ε α) :
    (reply.map f).readings = reply.readings :=
  rfl

@[simp]
theorem mapError_result
    (f : ε → δ)
    (reply : Reply ε α) :
    (reply.mapError f).result = reply.result.mapError f :=
  rfl

@[simp]
theorem mapError_slot
    (f : ε → δ)
    (reply : Reply ε α) :
    (reply.mapError f).slot = reply.slot :=
  rfl

@[simp]
theorem mapError_events
    (f : ε → δ)
    (reply : Reply ε α) :
    (reply.mapError f).events = reply.events :=
  rfl

@[simp]
theorem mapError_readings
    (f : ε → δ)
    (reply : Reply ε α) :
    (reply.mapError f).readings = reply.readings :=
  rfl

@[simp]
theorem report_result
    (events : α → List Event)
    (reply : Reply ε α) :
    (reply.report events).result = reply.result := by
  unfold report
  split <;> rfl

@[simp]
theorem report_slot
    (events : α → List Event)
    (reply : Reply ε α) :
    (reply.report events).slot = reply.slot := by
  unfold report
  split <;> rfl

@[simp]
theorem report_readings
    (events : α → List Event)
    (reply : Reply ε α) :
    (reply.report events).readings = reply.readings := by
  unfold report
  split <;> rfl

/- A failed operation has nothing further to report. -/
theorem report_of_error
    (events : α → List Event)
    {reply : Reply ε α}
    {e : ε}
    (hError : reply.result = .error e) :
    reply.report events = reply := by
  simp only [report, hError]

theorem report_events_of_ok
    (events : α → List Event)
    {reply : Reply ε α}
    {value : α}
    (hOk : reply.result = .ok value) :
    (reply.report events).events =
      reply.events ++ events value := by
  simp only [report, hOk]

end Reply

namespace Slot

------------------------------------------------------------
-- What the guard lets through
------------------------------------------------------------

theorem connectedType_eq_some_iff
    (slot : Slot)
    (t : DeviceType) :
    slot.connectedType = some t ↔
      slot.present = true ∧ slot.deviceType = some t := by
  unfold connectedType
  by_cases hPresent : slot.present = true
  · simp [hPresent]
  · simp [hPresent]

theorem connectedType_eq_none_iff
    (slot : Slot) :
    slot.connectedType = none ↔
      slot.present = false ∨ slot.deviceType = none := by
  unfold connectedType
  by_cases hPresent : slot.present = true
  · simp [hPresent]
  · simp [hPresent]

theorem holds_eq_true_iff
    (slot : Slot)
    (expected : DeviceType) :
    slot.holds expected = true ↔
      slot.connectedType = some expected := by
  simp [holds]

/- A slot that is empty or of no type counts as disconnected. -/
theorem validate_of_vacant
    {slot : Slot}
    (expected : DeviceType)
    (hVacant : slot.connectedType = none) :
    slot.validate expected =
      .error (.disconnected slot.index) := by
  simp only [validate, hVacant]

theorem validate_of_other
    {slot : Slot}
    {expected actual : DeviceType}
    (hActual : slot.connectedType = some actual)
    (hOther : actual ≠ expected) :
    slot.validate expected =
      .error (.incorrectDevice expected actual slot.index) := by
  simp only [validate, hActual, if_neg hOther]

/- The guard refuses as disconnected, or names the other type. -/
theorem cases_of_refused
    {slot : Slot}
    {expected : DeviceType}
    {e : SlotError}
    (hRefused : slot.validate expected = .error e) :
    e = .disconnected slot.index ∨
      ∃ actual, actual ≠ expected ∧
        e = .incorrectDevice expected actual slot.index := by
  cases hType : slot.connectedType with
  | none =>
      rw [validate_of_vacant expected hType] at hRefused
      cases hRefused
      exact Or.inl rfl
  | some actual =>
      by_cases hActual : actual = expected
      · subst hActual
        rw [(slot.validate_eq_ok_iff actual).mpr hType] at hRefused
        cases hRefused
      · rw [validate_of_other hType hActual] at hRefused
        cases hRefused
        exact Or.inr ⟨actual, hActual, rfl⟩

theorem exists_refusal_of_ne
    {slot : Slot}
    {expected : DeviceType}
    (hType : slot.connectedType ≠ some expected) :
    ∃ e, slot.validate expected = .error e := by
  cases hGuard : slot.validate expected with
  | ok passed =>
      cases passed
      exact absurd
        ((slot.validate_eq_ok_iff expected).mp hGuard) hType
  | error e => exact ⟨e, rfl⟩

------------------------------------------------------------
-- Reaching the state
------------------------------------------------------------

theorem stateOf_of_refused
    {slot : Slot}
    {k : Kind}
    {e : SlotError}
    (hRefused : slot.validate k.deviceType = .error e) :
    slot.stateOf k = .error e := by
  simp only [stateOf, hRefused]

theorem stateOf_eq_ok_iff
    (slot : Slot)
    (k : Kind)
    (state : k.State) :
    slot.stateOf k = .ok state ↔
      slot.connectedType = some k.deviceType ∧
        slot.state = .of k state := by
  rw [← validate_eq_ok_iff]
  constructor
  · intro hState
    unfold stateOf at hState
    split at hState
    · cases hState
    · rename_i hGuard
      split at hState
      · cases hState
      · rename_i inner hInner
        cases hState
        exact ⟨hGuard, DeviceState.eq_of_as?_eq_some hInner⟩
  · rintro ⟨hGuard, hState⟩
    simp only [stateOf, hGuard, hState, DeviceState.as?_of]

theorem connectedType_of_state
    {slot : Slot}
    {k : Kind}
    {state : k.State}
    (hState : slot.stateOf k = .ok state) :
    slot.connectedType = some k.deviceType :=
  ((slot.stateOf_eq_ok_iff k state).mp hState).1

theorem look_of_refused
    {α : Type}
    {slot : Slot}
    {k : Kind}
    {e : SlotError}
    (f : k.State → Instant → α)
    (hRefused : slot.validate k.deviceType = .error e) :
    slot.look k f = .error e := by
  rw [look, stateOf_of_refused hRefused]
  rfl

theorem look_of_state
    {α : Type}
    {slot : Slot}
    {k : Kind}
    {state : k.State}
    (f : k.State → Instant → α)
    (hState : slot.stateOf k = .ok state) :
    slot.look k f = .ok (f state slot.timestamp) := by
  rw [look, hState]
  rfl

/- Neither the clock is read nor the change made. -/
theorem update_of_refused
    {slot : Slot}
    {k : Kind}
    {e : SlotError}
    (clock : Clock)
    (edit : k.State → k.State)
    (hRefused : slot.validate k.deviceType = .error e) :
    slot.update clock k edit = .still slot clock (.error e) := by
  simp only [update, stateOf_of_refused hRefused]

theorem update_of_state
    {slot : Slot}
    {k : Kind}
    {before : k.State}
    (clock : Clock)
    (edit : k.State → k.State)
    (hState : slot.stateOf k = .ok before) :
    slot.update clock k edit =
      { result := .ok before
        slot :=
          { slot with
            timestamp := clock.now
            state := .of k (edit before) }
        clock := clock.read.2
        readings := [clock.now] } := by
  simp only [update, hState]
  rfl

@[simp]
theorem update_events
    (slot : Slot)
    (clock : Clock)
    (k : Kind)
    (edit : k.State → k.State) :
    (slot.update clock k edit).events = [] := by
  unfold update
  split <;> rfl

@[simp]
theorem publish_result
    (slot : Slot)
    (clock : Clock)
    (k : Kind)
    (edit : k.State → k.State)
    (meanwhile : Option Duration) :
    (slot.publish clock k edit meanwhile).result =
      (slot.update clock k edit).result.map (fun _ => ()) := by
  unfold publish
  dsimp only
  split <;> rfl

@[simp]
theorem publish_slot
    (slot : Slot)
    (clock : Clock)
    (k : Kind)
    (edit : k.State → k.State)
    (meanwhile : Option Duration) :
    (slot.publish clock k edit meanwhile).slot =
      (slot.update clock k edit).slot := by
  unfold publish
  dsimp only
  split <;> rfl

@[simp]
theorem publish_events
    (slot : Slot)
    (clock : Clock)
    (k : Kind)
    (edit : k.State → k.State)
    (meanwhile : Option Duration) :
    (slot.publish clock k edit meanwhile).events = [] := by
  unfold publish
  dsimp only
  split <;> exact slot.update_events clock k edit

@[simp]
theorem publish_readings
    (slot : Slot)
    (clock : Clock)
    (k : Kind)
    (edit : k.State → k.State)
    (meanwhile : Option Duration) :
    (slot.publish clock k edit meanwhile).readings =
      (slot.update clock k edit).readings := by
  unfold publish
  dsimp only
  split <;> rfl

/- A clock that the change would have moved stays where it is. -/
theorem publish_of_refused
    {slot : Slot}
    {k : Kind}
    {e : SlotError}
    (clock : Clock)
    (edit : k.State → k.State)
    (meanwhile : Option Duration)
    (hRefused : slot.validate k.deviceType = .error e) :
    slot.publish clock k edit meanwhile =
      .still slot clock (.error e) := by
  simp only [publish, update_of_refused clock edit hRefused]
  rfl

end Slot

end DeviceBay
