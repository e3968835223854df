import DeviceBay.Proofs.Slot.Guarded
import DeviceBay.Proofs.Slot.ResetTime

/-
  This file lists which operations write the state of a device
  and proves that exactly those, behind the guard, stamp the
  slot: with the reading that they take after the guard and
  before the state is changed.

  Key definitions include:
    * `SlotCall.writes?`
    * `SlotCall.guardClock`

  Main declarations:
    * `SlotCall.effect_target?`
    * `SlotCall.stamp?_of_admitted`
    * `SlotCall.stamp?_of_refused`
    * `SlotCall.stamp?_of_no_write`
    * `SlotCall.exists_of_stamp?`
-/

namespace DeviceBay

/- The clock that an effect reads, and the kind that it writes. -/
def Effect.target? : Effect → Option (Clock × Kind)
  | .update clock k _ => some (clock, k)
  | _ => none

namespace SlotCall

/-
  The kind of device whose state an operation writes. Of the
  status reads only the one that closes the window writes, and
  a line that an expander does not have is not written.
-/
def writes?
    (env : Env)
    (clock : Clock)
    (slot : Slot) : SlotCall → Option Kind
  | .publish k _ _ => some k
  | .motor (.tell _) => some .motor
  | .imu .reset => some .imu
  | .imu .status | .imu .isCalibrating =>
      if Imu.closes env.config clock.now slot then
        some .imu
      else
        none
  | .sensor (.setRotationPosition _) => some .rotation
  | .sensor .resetRotationPosition => some .rotation
  | .sensor (.setGpsOffset _) => some .gps
  | .line (.setMode number _) =>
      if number < lineCount then some .expander else none
  | _ => none

/- The clock as it is when an operation comes to its guard. -/
def guardClock
    (clock : Clock)
    (c : SlotCall) : Clock :=
  match c.firstReading? clock with
  | none => clock
  | some _ => clock.read.2

theorem guardClock_cases
    (clock : Clock)
    (c : SlotCall) :
    c.firstReading? clock = none ∧ c.guardClock clock = clock ∨
      c.firstReading? clock = some clock.now ∧
        c.guardClock clock = clock.read.2 := by
  unfold guardClock firstReading?
  split
  · exact Or.inr ⟨rfl, rfl⟩
  · exact Or.inr ⟨rfl, rfl⟩
  · exact Or.inr ⟨rfl, rfl⟩
  · exact Or.inl ⟨rfl, rfl⟩

section Writes

variable (env : Env) (clock : Clock) (slot : Slot)

/- What an operation writes, it writes at the time of its guard. -/
theorem effect_target?
    (c : SlotCall) :
    (c.effect env clock slot).target? =
      (c.writes? env clock slot).map
        (fun k => (c.guardClock clock, k)) := by
  cases c
  case motor c => cases c <;> rfl
  case imu c =>
    cases c
    case status =>
      simp only [effect, ImuCall.effect, writes?]
      split <;> rfl
    case isCalibrating =>
      simp only [effect, ImuCall.effect, writes?]
      split <;> rfl
    all_goals rfl
  case sensor c => cases c <;> rfl
  case line c =>
    cases c with
    | mode number => rfl
    | setMode number use =>
        simp only [effect, LineCall.effect, writes?]
        split <;> rfl
  all_goals rfl

/- What writes a state demands a device of its kind first. -/
theorem guard?_of_writes?
    {env : Env}
    {clock : Clock}
    {slot : Slot}
    {c : SlotCall}
    {k : Kind}
    (hWrites : c.writes? env clock slot = some k) :
    c.guard? = some k.deviceType := by
  cases c
  case publish kind edit meanwhile =>
    cases hWrites
    rfl
  case motor c =>
    cases c with
    | tell c =>
        cases hWrites
        rfl
    | ask q => cases hWrites
    | ignored c => cases hWrites
  case imu c =>
    have hKind : k = .imu := by
      cases c
      case reset =>
        cases hWrites
        rfl
      case status =>
        rcases Option.ite_none_right_eq_some.mp hWrites with
          ⟨hCloses, hKind⟩
        cases hKind
        rfl
      case isCalibrating =>
        rcases Option.ite_none_right_eq_some.mp hWrites with
          ⟨hCloses, hKind⟩
        cases hKind
        rfl
      all_goals cases hWrites
    rw [hKind]
    rfl
  case sensor c =>
    cases c
    case setRotationPosition position =>
      cases hWrites
      rfl
    case resetRotationPosition =>
      cases hWrites
      rfl
    case setGpsOffset offset =>
      cases hWrites
      rfl
    all_goals cases hWrites
  case line c =>
    cases c with
    | mode number => cases hWrites
    | setMode number use =>
        rcases Option.ite_none_right_eq_some.mp hWrites with
          ⟨hLine, hKind⟩
        cases hKind
        exact if_pos hLine
  all_goals cases hWrites

end Writes

------------------------------------------------------------
-- Stamps
------------------------------------------------------------

section Stamps

variable {env : Env} {clock : Clock} {slot : Slot}
variable {c : SlotCall} {k : Kind}

theorem exists_update
    (hWrites : c.writes? env clock slot = some k) :
    ∃ edit,
      c.effect env clock slot =
        .update (c.guardClock clock) k edit := by
  have hTarget := c.effect_target? env clock slot
  rw [hWrites] at hTarget
  cases hEffect : c.effect env clock slot with
  | nothing =>
      rw [hEffect] at hTarget
      cases hTarget
  | presence p =>
      rw [hEffect] at hTarget
      cases hTarget
  | update other kind edit =>
      rw [hEffect] at hTarget
      cases hTarget
      exact ⟨edit, rfl⟩

/- What writes no state takes no stamp. -/
theorem stamp?_of_no_write
    (hWrites : c.writes? env clock slot = none) :
    (c.effect env clock slot).stamp? slot = none := by
  have hTarget := c.effect_target? env clock slot
  rw [hWrites] at hTarget
  cases hEffect : c.effect env clock slot with
  | nothing => rfl
  | presence p => rfl
  | update other kind edit =>
      rw [hEffect] at hTarget
      cases hTarget

theorem stamp?_of_refused
    {e : SlotError}
    (hWrites : c.writes? env clock slot = some k)
    (hState : slot.stateOf k = .error e) :
    (c.effect env clock slot).stamp? slot = none := by
  rcases exists_update hWrites with ⟨edit, hEffect⟩
  simp only [hEffect, Effect.stamp?, hState]

theorem stamp?_of_admitted
    {before : k.State}
    (hWrites : c.writes? env clock slot = some k)
    (hState : slot.stateOf k = .ok before) :
    (c.effect env clock slot).stamp? slot =
      some (c.guardClock clock).now := by
  rcases exists_update hWrites with ⟨edit, hEffect⟩
  simp only [hEffect, Effect.stamp?, hState]

/- A stamp is the reading of a write that passed its guard. -/
theorem exists_of_stamp?
    {t : Instant}
    (hStamp : (c.effect env clock slot).stamp? slot = some t) :
    ∃ (k : Kind) (before : k.State),
      c.writes? env clock slot = some k ∧
        slot.stateOf k = .ok before ∧
        t = (c.guardClock clock).now := by
  cases hWrites : c.writes? env clock slot with
  | none =>
      rw [stamp?_of_no_write hWrites] at hStamp
      cases hStamp
  | some k =>
      cases hState : slot.stateOf k with
      | error e =>
          rw [stamp?_of_refused hWrites hState] at hStamp
          cases hStamp
      | ok before =>
          rw [stamp?_of_admitted hWrites hState] at hStamp
          exact ⟨k, before, rfl, hState,
            (Option.some.inj hStamp).symm⟩

/- A write puts the new state into the slot, under the stamp. -/
theorem apply_of_admitted
    {before : k.State}
    (hWrites : c.writes? env clock slot = some k)
    (hState : slot.stateOf k = .ok before) :
    ∃ after,
      (c.effect env clock slot).apply slot =
        { slot with
          timestamp := (c.guardClock clock).now
          state := .of k after } := by
  rcases exists_update hWrites with ⟨edit, hEffect⟩
  refine ⟨edit before, ?_⟩
  rw [hEffect, Effect.apply, Slot.update_of_state _ _ hState]

end Stamps

end SlotCall

end DeviceBay
