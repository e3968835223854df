import DeviceBay.Proofs.Slot.ClockUse
import DeviceBay.Proofs.Slot.Guarded
import DeviceBay.Proofs.Slot.ResetTime

/-
  This file compares two slots that hold devices of the same
  type, whose states may differ. On a clock that stands still
  the same operation takes both alike: it passes the guard on
  both or on neither, leaves them with devices of the same
  type, and moves the clock to the same time.

  Key definitions include:
    * `SlotCall.Alike`
    * `Slot.Twins`

  Main declarations:
    * `SlotCall.run_of_failed`
    * `Slot.Twins.apply`
    * `SlotCall.alike_publish`
    * `Slot.Twins.fades`
-/

namespace DeviceBay

------------------------------------------------------------
-- Failures
------------------------------------------------------------

/- An operation without a guard that fails leaves no trace. -/
theorem SlotCall.run_of_unguarded
    {env : Env}
    {clock : Clock}
    {slot : Slot}
    {c : SlotCall}
    {e : Failure}
    (hGuard : c.guard? = none)
    (hFailed : (c.run env clock slot).result = .error e) :
    (c.run env clock slot).slot = slot ∧
      c.advance? slot = none := by
  cases c
  case presence c => cases hFailed
  case handle c => exact ⟨rfl, rfl⟩
  case check expected q => exact ⟨rfl, rfl⟩
  case line c =>
    have hRange : ¬ c.line < lineCount := by
      intro hLine
      simp [guard?, hLine] at hGuard
    cases c with
    | mode line => exact ⟨rfl, rfl⟩
    | setMode line use =>
        have hLine : ¬ line < lineCount := hRange
        constructor
        · simp only [run, LineCall.run, Expander.setLineMode,
            dif_neg hLine]
          rfl
        · rfl
  case link id role c => exact ⟨rfl, rfl⟩
  all_goals cases hGuard

/- Whatever fails leaves its slot, and the clock, as they are. -/
theorem SlotCall.run_of_failed
    {env : Env}
    {clock : Clock}
    {slot : Slot}
    {i : SlotIndex}
    {c : SlotCall}
    {e : Failure}
    (hSlot : slot.Coherent i)
    (hFailed : (c.run env clock slot).result = .error e) :
    (c.run env clock slot).slot = slot ∧
      c.advance? slot = none := by
  cases hGuard : c.guard? with
  | none => exact run_of_unguarded hGuard hFailed
  | some t =>
      by_cases hType : slot.connectedType = some t
      · rcases c.run_of_admitted env clock hSlot hGuard hType with
          ⟨value, hValue⟩
        cases hFailed.symm.trans hValue
      · rcases Slot.exists_refusal_of_ne hType with
          ⟨refusal, hRefused⟩
        refine ⟨(run_of_refused env clock hGuard hRefused).2, ?_⟩
        cases c
        case publish k edit meanwhile =>
          cases hGuard
          simp only [advance?, Slot.stateOf_of_refused hRefused]
        all_goals rfl

------------------------------------------------------------
-- Twins
------------------------------------------------------------

/- Slots in the same place that hold devices of the same type. -/
structure Slot.Twins
    (i : SlotIndex)
    (a b : Slot) : Prop where
  left : a.Coherent i
  right : b.Coherent i
  present : a.present = b.present
  deviceType : a.deviceType = b.deviceType

namespace Slot.Twins

variable {i : SlotIndex} {a b : Slot}

theorem refl
    (hSlot : a.Coherent i) :
    Twins i a a :=
  ⟨hSlot, hSlot, rfl, rfl⟩

theorem symm
    (hTwins : Twins i a b) :
    Twins i b a :=
  ⟨hTwins.right, hTwins.left, hTwins.present.symm,
    hTwins.deviceType.symm⟩

theorem trans
    {c : Slot}
    (hTwins : Twins i a b)
    (hMore : Twins i b c) :
    Twins i a c :=
  ⟨hTwins.left, hMore.right, hTwins.present.trans hMore.present,
    hTwins.deviceType.trans hMore.deviceType⟩

theorem connectedType
    (hTwins : Twins i a b) :
    a.connectedType = b.connectedType := by
  rw [Slot.connectedType, Slot.connectedType, hTwins.present,
    hTwins.deviceType]

/- The guard gives both the same verdict. -/
theorem validate
    (hTwins : Twins i a b)
    (expected : DeviceType) :
    a.validate expected = b.validate expected := by
  rw [Slot.validate, Slot.validate, hTwins.connectedType,
    hTwins.left.index, hTwins.right.index]

/- Either both states can be reached, or the guard refuses both. -/
theorem stateOf
    (hTwins : Twins i a b)
    (k : Kind) :
    (∃ s t, a.stateOf k = .ok s ∧ b.stateOf k = .ok t) ∨
      ∃ e, a.stateOf k = .error e ∧ b.stateOf k = .error e := by
  by_cases hType : a.connectedType = some k.deviceType
  · have hOther : b.connectedType = some k.deviceType := by
      rw [← hTwins.connectedType, hType]
    rcases hTwins.left.stateOf hType with ⟨s, hState⟩
    rcases hTwins.right.stateOf hOther with ⟨t, hTwin⟩
    exact Or.inl ⟨s, t, hState, hTwin⟩
  · rcases Slot.exists_refusal_of_ne hType with ⟨e, hRefused⟩
    have hOther : b.validate k.deviceType = .error e := by
      rw [← hTwins.validate, hRefused]
    exact Or.inr
      ⟨e, stateOf_of_refused hRefused, stateOf_of_refused hOther⟩

theorem advance?
    (hTwins : Twins i a b)
    (c : SlotCall) :
    c.advance? a = c.advance? b := by
  cases c
  case publish k edit meanwhile =>
    rcases hTwins.stateOf k with
      ⟨s, t, hState, hTwin⟩ | ⟨e, hState, hTwin⟩
    · simp only [SlotCall.advance?, hState, hTwin]
    · simp only [SlotCall.advance?, hState, hTwin]
  all_goals rfl

end Slot.Twins

------------------------------------------------------------
-- The same operation on twins
------------------------------------------------------------

theorem Slot.Coherent.apply
    {i : SlotIndex}
    {slot : Slot}
    (hSlot : slot.Coherent i)
    (env : Env)
    (clock : Clock)
    (c : SlotCall) :
    ((c.effect env clock slot).apply slot).Coherent i := by
  have hChange := c.run_change env clock slot
  rw [(c.run_shows env clock slot).slot_eq] at hChange
  exact hChange.coherent hSlot

/- Past the presence calls a slot becomes a twin of itself. -/
theorem Slot.Coherent.twins_apply
    {i : SlotIndex}
    {slot : Slot}
    (hSlot : slot.Coherent i)
    (env : Env)
    (clock : Clock)
    {c : SlotCall}
    (hStays : (c.effect env clock slot).Stays) :
    Slot.Twins i ((c.effect env clock slot).apply slot) slot where
  left := hSlot.apply env clock c
  right := hSlot
  present := Effect.apply_present slot hStays
  deviceType := Effect.apply_deviceType slot hStays

theorem Slot.Twins.apply
    {i : SlotIndex}
    {a b : Slot}
    (hTwins : Twins i a b)
    (env other : Env)
    (clock : Clock)
    (c : SlotCall) :
    Twins i ((c.effect env clock a).apply a)
      ((c.effect other clock b).apply b) := by
  by_cases hPresence : ∃ p, c = .presence p
  · rcases hPresence with ⟨p, rfl⟩
    refine ⟨hTwins.left.apply env clock _,
      hTwins.right.apply other clock _, ?_, ?_⟩
    · cases p with
      | install t => exact hTwins.present
      | connect => rfl
      | disconnect => rfl
      | plugIn t => rfl
    · cases p with
      | install t => rfl
      | connect => exact hTwins.deviceType
      | disconnect => exact hTwins.deviceType
      | plugIn t => rfl
  · have hLeft := hTwins.left.twins_apply env clock
      (c.effect_stays env clock a hPresence)
    have hRight := hTwins.right.twins_apply other clock
      (c.effect_stays other clock b hPresence)
    exact (hLeft.trans hTwins).trans hRight.symm

------------------------------------------------------------
-- Stored readings of twins
------------------------------------------------------------

/-
  A publication is alike on two slots if it keeps the start of
  the calibration window of both, or leaves both with the same.
-/
def SlotCall.Alike
    (a b : Slot) : SlotCall → Prop
  | .publish .imu edit _ =>
      ∀ s t, a.stateOf .imu = .ok s → b.stateOf .imu = .ok t →
        (edit s).resetAt = s.resetAt ∧
            (edit t).resetAt = t.resetAt ∨
          (edit s).resetAt = (edit t).resetAt
  | _ => True

/- It is so if the start is left alone, or set to a fixed one. -/
theorem SlotCall.alike_publish
    {edit : Imu → Imu}
    (hEdit :
      (∀ s, (edit s).resetAt = s.resetAt) ∨
        ∃ start, ∀ s, (edit s).resetAt = start)
    (meanwhile : Option Duration)
    (a b : Slot) :
    (SlotCall.publish .imu edit meanwhile).Alike a b := by
  intro s t _ _
  rcases hEdit with hKeeps | ⟨start, hFixed⟩
  · exact Or.inl ⟨hKeeps s, hKeeps t⟩
  · exact Or.inr ((hFixed s).trans (hFixed t).symm)

section Fades

variable {seen : List Instant} {i : SlotIndex} {a b : Slot}
variable {env other : Env} (clock : Clock)

theorem Slot.Twins.fades_reset
    (hTwins : Twins i a b)
    (hFades :
      Imu.Fades env.config seen b.resetAt? a.resetAt?) :
    Imu.Fades env.config seen
      (((SlotCall.imu .reset).effect other clock b).apply
        b).resetAt?
      (((SlotCall.imu .reset).effect env clock a).apply
        a).resetAt? := by
  rw [SlotCall.resetAt?_reset, SlotCall.resetAt?_reset]
  rcases hTwins.stateOf .imu with
    ⟨s, t, hState, hTwin⟩ | ⟨e, hState, hTwin⟩
  · simp only [SlotCall.resetWrite?, hState, hTwin]
    exact .refl _ _ _
  · simp only [SlotCall.resetWrite?, hState, hTwin]
    exact hFades

theorem Slot.Twins.fades_publish
    (hTwins : Twins i a b)
    {edit : Imu → Imu}
    {meanwhile : Option Duration}
    (hAlike : (SlotCall.publish .imu edit meanwhile).Alike a b)
    (hFades :
      Imu.Fades env.config seen b.resetAt? a.resetAt?) :
    Imu.Fades env.config seen
      ((Effect.update clock .imu edit).apply b).resetAt?
      ((Effect.update clock .imu edit).apply a).resetAt? := by
  rcases hTwins.stateOf .imu with
    ⟨s, t, hState, hTwin⟩ | ⟨e, hState, hTwin⟩
  · rw [resetAt?_update clock edit hState,
      resetAt?_update clock edit hTwin]
    rcases hAlike s t hState hTwin with ⟨hLeft, hRight⟩ | hSame
    · rw [hLeft, hRight, ← resetAt?_of_state hState,
        ← resetAt?_of_state hTwin]
      exact hFades
    · rw [hSame]
      exact .refl _ _ _
  · rw [resetAt?_update_of_error clock edit hState,
      resetAt?_update_of_error clock edit hTwin]
    exact hFades

theorem Slot.Twins.fades_status
    (hTwins : Twins i a b)
    (hConfig : other.config = env.config)
    {c : SlotCall}
    (hReads : c.readsStatus = true)
    (hFades :
      Imu.Fades env.config seen b.resetAt? a.resetAt?) :
    Imu.Fades env.config seen
      ((c.effect other clock b).apply b).resetAt?
      ((c.effect env clock a).apply a).resetAt? := by
  rw [SlotCall.resetAt?_status other clock b hReads,
    SlotCall.resetAt?_status env clock a hReads,
    SlotCall.closes, SlotCall.closes, hReads, Bool.true_and,
    Bool.true_and, hConfig]
  rcases hTwins.stateOf .imu with
    ⟨s, t, hState, hTwin⟩ | ⟨e, hState, hTwin⟩
  · rw [Imu.closes_of_state _ _ hState,
      Imu.closes_of_state _ _ hTwin, ← resetAt?_of_state hState,
      ← resetAt?_of_state hTwin]
    exact hFades.close clock.now
  · rw [Imu.closes_of_error _ _ hState,
      Imu.closes_of_error _ _ hTwin]
    exact hFades

/-
  The same operation keeps twins apart by no more than a window
  that one of them closed already.
-/
theorem Slot.Twins.fades
    (hTwins : Twins i a b)
    (hConfig : other.config = env.config)
    {c : SlotCall}
    (hAlike : c.Alike a b)
    (hFades :
      Imu.Fades env.config seen b.resetAt? a.resetAt?) :
    Imu.Fades env.config seen
      ((c.effect other clock b).apply b).resetAt?
      ((c.effect env clock a).apply a).resetAt? := by
  cases hInstalls : c.installs with
  | true =>
      rw [SlotCall.resetAt?_of_installs other clock b hInstalls,
        SlotCall.resetAt?_of_installs env clock a hInstalls]
      exact .refl _ _ none
  | false =>
      cases hReads : c.readsStatus with
      | true => exact hTwins.fades_status clock hConfig hReads hFades
      | false =>
          cases hSets : c.setsReset with
          | true =>
              rcases SlotCall.cases_of_setsReset hSets with
                rfl | ⟨edit, meanwhile, rfl⟩
              · exact hTwins.fades_reset clock hFades
              · exact hTwins.fades_publish clock hAlike hFades
          | false =>
              rw [SlotCall.resetAt?_of_idle other clock b hInstalls
                  hReads hSets,
                SlotCall.resetAt?_of_idle env clock a hInstalls
                  hReads hSets]
              exact hFades

end Fades

end DeviceBay
