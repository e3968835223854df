import DeviceBay.Proofs.Slot.Coherence
import DeviceBay.Proofs.Slot.Effect
import DeviceBay.Proofs.Time.Elapsed

/-
  This file proves what becomes of the reading that a slot
  stores as the start of its calibration window, under each
  operation, and that a status read answers from that reading
  and the time alone.

  Key definitions include:
    * `Imu.calibrating`
    * `InertialStatus.ofCalibrating`
    * `Slot.resetAt?`
    * `Imu.Fades`
    * `SlotCall.readsStatus`
    * `SlotCall.setsReset`
    * `SlotCall.closes`
    * `SlotCall.resetWrite?`

  Main declarations:
    * `Imu.windowOpen_iff`
    * `Imu.windowOpen_of_le`
    * `Imu.status_result`
    * `Imu.Fades.calibrating_eq`
    * `SlotCall.resetAt?_apply`
-/

namespace DeviceBay

------------------------------------------------------------
-- Windows over time
------------------------------------------------------------

theorem Duration.lt_iff
    (a b : Duration) :
    a < b ↔ a.nanos < b.nanos :=
  Iff.rfl

namespace Imu

/- A window is open while less than the calibration time passed. -/
theorem windowOpen_iff
    (config : Config)
    (now start : Instant) :
    windowOpen config now start = true ↔
      (now.toNat - start.toNat) * 1000000 <
        config.calibrationTime.nanos := by
  rw [windowOpen, decide_eq_true_iff, Duration.lt_iff,
    Instant.saturatingDurationSince_eq, Duration.ofMillis]

/- A window that is over stays over while time goes forward. -/
theorem windowOpen_of_le
    {config : Config}
    {now later start : Instant}
    (hLe : now ≤ later)
    (hOver : windowOpen config now start = false) :
    windowOpen config later start = false := by
  have hTime := (Instant.le_iff now later).mp hLe
  have hPassed :
      (now.toNat - start.toNat) * 1000000 ≤
        (later.toNat - start.toNat) * 1000000 :=
    Nat.mul_le_mul_right _ (Nat.sub_le_sub_right hTime _)
  cases hOpen : windowOpen config later start with
  | false => rfl
  | true =>
      have hBefore := (windowOpen_iff config later start).mp hOpen
      have hStill :=
        (windowOpen_iff config now start).mpr
          (Nat.lt_of_le_of_lt hPassed hBefore)
      rw [hStill] at hOver
      cases hOver

/- Whether a calibration is under way that may have started. -/
def calibrating
    (config : Config)
    (now : Instant)
    (resetAt : Option Instant) : Bool :=
  resetAt.any (windowOpen config now)

theorem calibrating_iff
    (config : Config)
    (now : Instant)
    (resetAt : Option Instant) :
    calibrating config now resetAt = true ↔
      ∃ start,
        resetAt = some start ∧
          (now.toNat - start.toNat) * 1000000 <
            config.calibrationTime.nanos := by
  simp only [calibrating, Option.any_eq_true, windowOpen_iff]

end Imu

/- The status bits of a sensor that is calibrating, or is not. -/
def InertialStatus.ofCalibrating
    (calibrating : Bool) : InertialStatus :=
  if calibrating then InertialStatus.calibrating else Flags.empty

theorem InertialStatus.contains_ofCalibrating
    (calibrating : Bool) :
    (ofCalibrating calibrating).contains
      InertialStatus.calibrating = calibrating := by
  cases calibrating <;> decide

/- A status read answers from the stored reading and the time. -/
theorem Imu.status_result
    {slot : Slot}
    {s : Imu}
    (config : Config)
    (clock : Clock)
    (hState : slot.stateOf .imu = .ok s) :
    (status config clock slot).result =
      .ok
        (InertialStatus.ofCalibrating
          (calibrating config clock.now s.resetAt)) := by
  cases hReset : s.resetAt with
  | none =>
      rw [status_of_none config clock hState hReset]
      rfl
  | some start =>
      cases hOpen : windowOpen config clock.now start with
      | true =>
          rw [status_of_open config clock hState hReset hOpen]
          simp [calibrating, hOpen, InertialStatus.ofCalibrating]
      | false =>
          rw [status_of_over config clock hState hReset hOpen]
          simp [calibrating, hOpen, InertialStatus.ofCalibrating]

theorem Imu.isCalibrating_result
    {slot : Slot}
    {s : Imu}
    (config : Config)
    (clock : Clock)
    (hState : slot.stateOf .imu = .ok s) :
    (isCalibrating config clock slot).result =
      .ok (calibrating config clock.now s.resetAt) := by
  simp only [isCalibrating, Reply.map_result,
    status_result config clock hState, Except.map,
    InertialStatus.contains_ofCalibrating]

------------------------------------------------------------
-- The stored reading
------------------------------------------------------------

namespace Slot

/- The reading at which the window of a slot was opened. -/
def resetAt?
    (slot : Slot) : Option Instant :=
  (slot.stateAs? .imu).bind (fun s => s.resetAt)

theorem resetAt?_of_state
    {slot : Slot}
    {s : Imu}
    (hState : slot.stateOf .imu = .ok s) :
    slot.resetAt? = s.resetAt := by
  rw [resetAt?, stateAs?_of_stateOf hState]
  rfl

theorem resetAt?_update
    {slot : Slot}
    {s : Imu}
    (clock : Clock)
    (edit : Imu → Imu)
    (hState : slot.stateOf .imu = .ok s) :
    ((Effect.update clock .imu edit).apply slot).resetAt? =
      (edit s).resetAt := by
  have hAfter := update_stateAs? (k := .imu) clock edit hState
  simp only [resetAt?, Effect.apply, hAfter]
  rfl

theorem resetAt?_update_of_error
    {slot : Slot}
    {e : SlotError}
    (clock : Clock)
    (edit : Imu → Imu)
    (hState : slot.stateOf .imu = .error e) :
    ((Effect.update clock .imu edit).apply slot).resetAt? =
      slot.resetAt? := by
  rw [Effect.apply, update_slot_of_error clock edit hState]

theorem resetAt?_of_spares
    (slot : Slot)
    {effect : Effect}
    (hSpares : effect.Spares .imu) :
    (effect.apply slot).resetAt? = slot.resetAt? := by
  rw [resetAt?, resetAt?, Effect.apply_stateAs?_of_spares slot hSpares]

end Slot

------------------------------------------------------------
-- Written and stored readings
------------------------------------------------------------

/-
  The stored reading is the written one, or is gone after the
  window was found over at one of the readings seen so far.
-/
def Imu.Fades
    (config : Config)
    (seen : List Instant)
    (written stored : Option Instant) : Prop :=
  stored = written ∨
    stored = none ∧
      ∃ start now,
        written = some start ∧
          now ∈ seen ∧
          windowOpen config now start = false

namespace Imu.Fades

variable {config : Config} {seen more : List Instant}
variable {written stored : Option Instant}

theorem refl
    (config : Config)
    (seen : List Instant)
    (written : Option Instant) :
    Fades config seen written written :=
  Or.inl rfl

theorem append
    (more : List Instant)
    (hFades : Fades config seen written stored) :
    Fades config (seen ++ more) written stored := by
  rcases hFades with hSame | ⟨hNone, start, now, hStart, hSeen, hOver⟩
  · exact Or.inl hSame
  · exact Or.inr
      ⟨hNone, start, now, hStart,
        List.mem_append_left more hSeen, hOver⟩

/- A reading that is still there is the one that was written. -/
theorem eq_of_stored
    {start : Instant}
    (hFades : Fades config seen written (some start)) :
    written = some start := by
  rcases hFades with hSame | ⟨hNone, hRest⟩
  · exact hSame.symm
  · cases hNone

theorem trans
    {again : Option Instant}
    (hFades : Fades config seen written stored)
    (hMore : Fades config more stored again) :
    Fades config (seen ++ more) written again := by
  rcases hMore with hSame | ⟨hNone, start, now, hStart, hSeen, hOver⟩
  · rw [hSame]
    exact hFades.append more
  · rw [hStart] at hFades
    exact Or.inr
      ⟨hNone, start, now, hFades.eq_of_stored,
        List.mem_append_right seen hSeen, hOver⟩

/- A window that is over may be closed on both sides. -/
theorem close
    (now : Instant)
    (hFades : Fades config seen written stored) :
    let isOver (resetAt : Option Instant) : Bool :=
      resetAt.any (fun start => !windowOpen config now start)
    Fades config seen
      (if isOver written then none else written)
      (if isOver stored then none else stored) := by
  intro isOver
  rcases hFades with hSame | ⟨hNone, hRest⟩
  · rw [hSame]
    exact .refl _ _ _
  · have hOpen : isOver none = false := rfl
    rw [hNone, hOpen, if_neg Bool.false_ne_true]
    cases isOver written with
    | true => exact .refl _ _ none
    | false => exact Or.inr ⟨rfl, hRest⟩

theorem eq_none
    (hFades : Fades config seen none stored) :
    stored = none := by
  rcases hFades with hSame | ⟨hNone, hRest⟩
  · exact hSame
  · exact hNone

/- While time goes forward nobody can tell the two apart. -/
theorem calibrating_eq
    {now : Instant}
    (hFades : Fades config seen written stored)
    (hSeen : ∀ t ∈ seen, t ≤ now) :
    calibrating config now stored =
      calibrating config now written := by
  rcases hFades with hSame | ⟨hNone, start, before, hStart, hBefore, hOver⟩
  · rw [hSame]
  · have hStillOver := windowOpen_of_le (hSeen before hBefore) hOver
    rw [hNone, hStart]
    simp [calibrating, hStillOver]

end Imu.Fades

------------------------------------------------------------
-- Operations and the stored reading
------------------------------------------------------------

namespace SlotCall

def readsStatus : SlotCall → Bool
  | .imu .status => true
  | .imu .isCalibrating => true
  | _ => false

theorem cases_of_readsStatus
    {c : SlotCall}
    (hReads : c.readsStatus = true) :
    c = .imu .status ∨ c = .imu .isCalibrating := by
  unfold readsStatus at hReads
  split at hReads
  · exact Or.inl rfl
  · exact Or.inr rfl
  · cases hReads

/- A status read takes its first reading before anything else. -/
theorem firstReading?_of_readsStatus
    {c : SlotCall}
    (clock : Clock)
    (hReads : c.readsStatus = true) :
    c.firstReading? clock = some clock.now := by
  rcases cases_of_readsStatus hReads with rfl | rfl
  · rfl
  · rfl

/- The operations that may open a window. -/
def setsReset : SlotCall → Bool
  | .imu .reset => true
  | .publish .imu _ _ => true
  | _ => false

/- Whether an operation is a status read that closes the window. -/
def closes
    (env : Env)
    (clock : Clock)
    (slot : Slot)
    (c : SlotCall) : Bool :=
  c.readsStatus && Imu.closes env.config clock.now slot

/-
  What an operation writes as the reading at which the window
  was opened. The closing of the window is no such write. A
  state that is published from outside counts if it is another
  reading, or none any more.
-/
def resetWrite?
    (clock : Clock)
    (slot : Slot) : SlotCall → Option (Option Instant)
  | .imu .reset =>
      match slot.stateOf .imu with
      | .error _ => none
      | .ok _ => some (some clock.now)
  | .publish .imu edit _ =>
      match slot.stateOf .imu with
      | .error _ => none
      | .ok s =>
          if (edit s).resetAt = s.resetAt then
            none
          else
            some (edit s).resetAt
  | _ => none

variable (env : Env) (clock : Clock) (slot : Slot)

/- A sensor that was just installed is not calibrating. -/
theorem resetAt?_of_installs
    {c : SlotCall}
    (hInstalls : c.installs = true) :
    ((c.effect env clock slot).apply slot).resetAt? = none := by
  rcases stateAs?_of_installs env clock slot hInstalls .imu with
    hNone | hFresh
  · rw [Slot.resetAt?, hNone]
    rfl
  · rw [Slot.resetAt?, hFresh]
    rfl

theorem resetAt?_reset :
    (((SlotCall.imu .reset).effect env clock slot).apply
        slot).resetAt? =
      ((SlotCall.imu .reset).resetWrite? clock slot).getD
        slot.resetAt? := by
  simp only [effect, ImuCall.effect, resetWrite?]
  cases hState : slot.stateOf .imu with
  | error e => exact Slot.resetAt?_update_of_error _ _ hState
  | ok s => exact Slot.resetAt?_update _ _ hState

theorem resetAt?_publish
    (edit : Imu → Imu)
    (meanwhile : Option Duration) :
    ((Effect.update clock .imu edit).apply slot).resetAt? =
      ((SlotCall.publish .imu edit meanwhile).resetWrite? clock
        slot).getD slot.resetAt? := by
  simp only [resetWrite?]
  cases hState : slot.stateOf .imu with
  | error e => exact Slot.resetAt?_update_of_error _ _ hState
  | ok s =>
      rw [Slot.resetAt?_update clock edit hState,
        Slot.resetAt?_of_state hState]
      dsimp only
      split
      · assumption
      · rfl

/- A status read updates the slot only to close the window. -/
theorem effect_of_readsStatus
    {c : SlotCall}
    (hReads : c.readsStatus = true) :
    c.effect env clock slot =
      if c.closes env clock slot then
        .update clock.read.2 .imu
          (fun s => { s with resetAt := none })
      else
        .nothing := by
  rw [closes, hReads, Bool.true_and]
  rcases cases_of_readsStatus hReads with rfl | rfl
  · rfl
  · rfl

theorem exists_of_closes
    {c : SlotCall}
    (hCloses : c.closes env clock slot = true) :
    ∃ s start,
      slot.stateOf .imu = .ok s ∧
        s.resetAt = some start ∧
        Imu.windowOpen env.config clock.now start = false := by
  rcases Bool.and_eq_true_iff.mp hCloses with ⟨hReads, hOver⟩
  exact (Imu.closes_eq_true_iff _ _ _).mp hOver

/- A status read removes the reading if it closes the window. -/
theorem resetAt?_status
    {c : SlotCall}
    (hReads : c.readsStatus = true) :
    ((c.effect env clock slot).apply slot).resetAt? =
      if c.closes env clock slot then none else slot.resetAt? := by
  rw [effect_of_readsStatus env clock slot hReads]
  cases hCloses : c.closes env clock slot with
  | false => rfl
  | true =>
      rcases exists_of_closes env clock slot hCloses with
        ⟨s, start, hState, hReset, hOver⟩
      exact Slot.resetAt?_update _ _ hState

/- What a status read removes was over at its first reading. -/
theorem fades_status
    {seen : List Instant}
    {c : SlotCall}
    (hReads : c.readsStatus = true)
    (hNow : clock.now ∈ seen) :
    Imu.Fades env.config seen slot.resetAt?
      ((c.effect env clock slot).apply slot).resetAt? := by
  rw [resetAt?_status env clock slot hReads]
  cases hCloses : c.closes env clock slot with
  | false => exact .refl _ _ _
  | true =>
      rcases exists_of_closes env clock slot hCloses with
        ⟨s, start, hState, hReset, hOver⟩
      rw [Slot.resetAt?_of_state hState, hReset]
      exact Or.inr ⟨rfl, start, clock.now, rfl, hNow, hOver⟩

/- An operation of no other sort leaves the stored reading. -/
theorem resetAt?_of_idle
    {c : SlotCall}
    (hKeeps : c.installs = false)
    (hReads : c.readsStatus = false)
    (hSets : c.setsReset = false) :
    ((c.effect env clock slot).apply slot).resetAt? =
      slot.resetAt? := by
  cases c
  case presence c =>
    cases c with
    | install t => cases hKeeps
    | plugIn t => cases hKeeps
    | connect => rfl
    | disconnect => rfl
  case publish k edit meanwhile =>
    have hKind : k ≠ .imu := by
      rintro rfl
      cases hSets
    have hSpares : (Effect.update clock k edit).Spares .imu := hKind
    exact slot.resetAt?_of_spares hSpares
  case motor c =>
    cases c with
    | ask q => rfl
    | tell c =>
        have hSpares :
            (Effect.update clock .motor
              (c.apply env.owners)).Spares .imu :=
          nofun
        exact slot.resetAt?_of_spares hSpares
    | ignored c => rfl
  case imu c =>
    cases c
    case reset => cases hSets
    case status => cases hReads
    case isCalibrating => cases hReads
    all_goals rfl
  case sensor c =>
    exact slot.resetAt?_of_spares (c.effect_spares clock nofun nofun)
  case line c =>
    exact slot.resetAt?_of_spares (c.effect_spares clock nofun)
  all_goals rfl

theorem cases_of_setsReset
    {c : SlotCall}
    (hSets : c.setsReset = true) :
    c = .imu .reset ∨
      ∃ edit meanwhile, c = .publish .imu edit meanwhile := by
  unfold setsReset at hSets
  split at hSets
  · exact Or.inl rfl
  · exact Or.inr ⟨_, _, rfl⟩
  · cases hSets

theorem resetWrite?_of_not_setsReset
    {c : SlotCall}
    (hSets : c.setsReset = false) :
    c.resetWrite? clock slot = none := by
  unfold resetWrite?
  split
  · cases hSets
  · cases hSets
  · rfl

theorem resetWrite?_of_readsStatus
    {c : SlotCall}
    (hReads : c.readsStatus = true) :
    c.resetWrite? clock slot = none := by
  rcases cases_of_readsStatus hReads with rfl | rfl
  · rfl
  · rfl

/-
  Past the installations, the stored reading is what was just
  written, none after the window was closed, or as before.
-/
theorem resetAt?_apply
    {c : SlotCall}
    (hKeeps : c.installs = false) :
    ((c.effect env clock slot).apply slot).resetAt? =
      if c.closes env clock slot then
        none
      else
        (c.resetWrite? clock slot).getD slot.resetAt? := by
  cases hReads : c.readsStatus with
  | true =>
      rw [resetWrite?_of_readsStatus clock slot hReads]
      exact resetAt?_status env clock slot hReads
  | false =>
      rw [closes, hReads, Bool.false_and,
        if_neg Bool.false_ne_true]
      cases hSets : c.setsReset with
      | true =>
          rcases cases_of_setsReset hSets with
            rfl | ⟨edit, meanwhile, rfl⟩
          · exact resetAt?_reset env clock slot
          · exact resetAt?_publish clock slot edit meanwhile
      | false =>
          rw [resetAt?_of_idle env clock slot hKeeps hReads hSets,
            resetWrite?_of_not_setsReset clock slot hSets]
          rfl

end SlotCall

end DeviceBay
