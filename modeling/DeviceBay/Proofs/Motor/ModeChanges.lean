import DeviceBay.Proofs.Motor.Registers
import DeviceBay.Proofs.Slot.Reports
import Mathlib.Data.List.Chain

/-
  This file says which changes of the control mode of a motor
  are reported, and proves that an operation on a slot reports
  one exactly if it changes the mode, unless it installs
  something or publishes a mode.

  Key definitions include:
    * `ModeChange`
    * `ModeChange.Tells`
    * `ModeChange.final`
    * `Event.modeChangeOn?`
    * `Slot.controlMode?`
    * `SlotCall.mode?`
    * `SlotCall.modeChanges`

  Main declarations:
    * `ModeChange.Tells.append`
    * `SlotCall.reports_modeChanges`
    * `SlotCall.controlMode?_apply`
    * `SlotCall.modeChanges_eq`
-/

namespace DeviceBay

------------------------------------------------------------
-- Logs of changes
------------------------------------------------------------

/- A change of the control mode, as it is reported. -/
structure ModeChange where
  previous : ControlMode
  mode : ControlMode
deriving DecidableEq

namespace ModeChange

/- The change from one mode to another, if they differ. -/
def between
    (previous mode : ControlMode) : List ModeChange :=
  if previous = mode then [] else [⟨previous, mode⟩]

/- The mode that a log of changes ends with. -/
def final
    (start : ControlMode)
    (log : List ModeChange) : ControlMode :=
  (log.getLast?.map (fun change => change.mode)).getD start

/-
  A log that tells how a mode became others: each change begins
  where the one before it ended, and ends somewhere else.
-/
structure Tells
    (start : ControlMode)
    (log : List ModeChange) : Prop where
  first : ∀ change ∈ log.head?, change.previous = start
  next :
    log.IsChain (fun change later => later.previous = change.mode)
  moves : ∀ change ∈ log, change.previous ≠ change.mode

theorem tells_nil
    (start : ControlMode) :
    Tells start [] where
  first := nofun
  next := .nil
  moves := nofun

@[simp]
theorem final_nil
    (start : ControlMode) :
    final start [] = start :=
  rfl

theorem final_between
    (start mode : ControlMode)
    (log : List ModeChange) :
    final start (log ++ between (final start log) mode) = mode := by
  unfold between
  split
  · rename_i hSame
    rw [List.append_nil]
    exact hSame
  · simp [final]

/- A log goes on from the mode that it ends with. -/
theorem Tells.append
    {start : ControlMode}
    {log : List ModeChange}
    (hTells : Tells start log)
    (mode : ControlMode) :
    Tells start (log ++ between (final start log) mode) := by
  unfold between
  split
  · rw [List.append_nil]
    exact hTells
  · rename_i hMoves
    constructor
    case first =>
      cases log with
      | nil =>
          intro change hHead
          cases hHead
          rfl
      | cons change rest => exact hTells.first
    case next =>
      refine List.isChain_append.mpr ⟨hTells.next, .singleton _, ?_⟩
      intro change hLast later hHead
      cases hHead
      rw [Option.mem_def] at hLast
      simp [final, hLast]
    case moves =>
      intro change hMember
      rcases List.mem_append.mp hMember with hBefore | hNew
      · exact hTells.moves change hBefore
      · rw [List.mem_singleton.mp hNew]
        exact hMoves

end ModeChange

------------------------------------------------------------
-- Reports of changes
------------------------------------------------------------

/- The change that an event reports of the motor in a slot. -/
def Event.modeChangeOn?
    (i : SlotIndex) : Event → Option ModeChange
  | .modeChanged j previous mode =>
      if j = i then some ⟨previous, mode⟩ else none
  | _ => none

namespace SlotCall

/- The control mode that an operation puts a motor into. -/
def mode? : SlotCall → Option ControlMode
  | .motor (.tell c) => c.mode?
  | _ => none

/- The change of the control mode that an operation reports. -/
def modeChanges
    (slot : Slot)
    (c : SlotCall) : List ModeChange :=
  match c.mode?, slot.stateOf .motor with
  | some mode, .ok m => ModeChange.between m.controlMode mode
  | _, _ => []

section Reports

variable (env : Env) (clock : Clock) (slot : Slot) (i : SlotIndex)

theorem modeEvents_modeChanges
    (j : SlotIndex)
    (m : Motor)
    (c : MotorCommand) :
    (c.modeEvents j m).filterMap (Event.modeChangeOn? i) =
      if j = i then
        (c.mode?.map (ModeChange.between m.controlMode)).getD []
      else
        [] := by
  unfold MotorCommand.modeEvents
  cases c.mode? with
  | none => exact (ite_self _).symm
  | some mode =>
      dsimp only [Option.map_some, Option.getD_some]
      unfold ModeChange.between
      split
      · exact (ite_self _).symm
      · by_cases hSlot : j = i
        · simp [Event.modeChangeOn?, hSlot]
        · simp [Event.modeChangeOn?, hSlot]

theorem ignoredReports_modeChanges
    (expected : DeviceType)
    (call : IgnoredCall) :
    (slot.ignoredReports expected call).filterMap
      (Event.modeChangeOn? i) = [] := by
  unfold Slot.ignoredReports
  split <;> rfl

theorem motor_modeChanges
    (c : MotorCall) :
    (c.reports slot).filterMap (Event.modeChangeOn? i) =
      if slot.index = i then
        (SlotCall.motor c).modeChanges slot
      else
        [] := by
  cases c with
  | ask q => exact (ite_self _).symm
  | ignored c =>
      rw [MotorCall.reports, ignoredReports_modeChanges]
      exact (ite_self _).symm
  | tell c =>
      simp only [MotorCall.reports, modeChanges, mode?]
      cases hState : slot.stateOf .motor with
      | error e => cases c.mode? <;> exact (ite_self _).symm
      | ok m =>
          dsimp only
          rw [modeEvents_modeChanges]
          cases c.mode? <;> rfl

theorem imu_modeChanges
    (config : Config)
    (c : ImuCall) :
    (c.reports config clock slot).filterMap
      (Event.modeChangeOn? i) = [] := by
  cases c with
  | reset =>
      simp only [ImuCall.reports]
      split <;> rfl
  | status =>
      simp only [ImuCall.reports]
      split <;> rfl
  | isCalibrating =>
      simp only [ImuCall.reports]
      split <;> rfl
  | ignored c => exact ignoredReports_modeChanges slot i _ _
  | ask q => rfl
  | quaternion => rfl
  | mode => rfl

theorem link_modeChanges
    (j : SlotIndex)
    (id : String)
    (role : LinkRole)
    (c : LinkCall) :
    (openLink j id role ++ c.events j).filterMap
      (Event.modeChangeOn? i) = [] := by
  apply List.filterMap_eq_nil_iff.mpr
  intro event hMember
  rcases List.mem_append.mp hMember with hOpen | hCall
  · rw [List.mem_singleton.mp hOpen]
    rfl
  · cases c with
    | check q => cases hCall
    | radio c =>
        rcases List.mem_map.mp hCall with ⟨activity, _, rfl⟩
        rfl

/- The changes that an operation reports are of its own slot. -/
theorem reports_modeChanges
    (c : SlotCall) :
    (c.reports env clock slot).filterMap (Event.modeChangeOn? i) =
      if slot.index = i then c.modeChanges slot else [] := by
  cases c
  case motor c => exact motor_modeChanges slot i c
  case presence c => cases c <;> exact (ite_self _).symm
  case imu c =>
    rw [reports, imu_modeChanges]
    exact (ite_self _).symm
  case link id role c =>
    rw [reports, link_modeChanges]
    exact (ite_self _).symm
  all_goals exact (ite_self _).symm

end Reports

end SlotCall

------------------------------------------------------------
-- Changes of the mode
------------------------------------------------------------

/- The control mode of the motor in a slot, behind no guard. -/
def Slot.controlMode?
    (slot : Slot) : Option ControlMode :=
  (slot.stateAs? .motor).map (fun m => m.controlMode)

namespace Slot

theorem controlMode?_of_state
    {slot : Slot}
    {m : Motor}
    (hState : slot.stateOf .motor = .ok m) :
    slot.controlMode? = some m.controlMode := by
  rw [controlMode?, stateAs?_of_stateOf hState]
  rfl

theorem controlMode?_eq_held
    (slot : Slot) :
    slot.controlMode? =
      (slot.stateAs? .motor).map
        (fun _ => MotorRegister.held slot .controlMode) := by
  rw [controlMode?, MotorRegister.held]
  cases slot.stateAs? .motor <;> rfl

end Slot

namespace SlotCall

section Changes

variable (env : Env) (clock : Clock)
variable {slot : Slot} {c : SlotCall}

/- The mode is written like any other register of the motor. -/
theorem controlMode?_apply
    (hKeeps : c.installs = false) :
    ((c.effect env clock slot).apply slot).controlMode? =
      slot.controlMode?.map
        (MotorRegister.write? env slot .controlMode c).getD := by
  have hKind :=
    stateAs?_isSome_apply env clock slot hKeeps .motor
  rw [Slot.controlMode?_eq_held, Slot.controlMode?_eq_held,
    MotorRegister.held_apply env clock slot hKeeps .controlMode]
  cases hBefore : slot.stateAs? .motor with
  | none =>
      rw [hBefore] at hKind
      have hAfter := Option.isSome_eq_false_iff.mp hKind
      rw [Option.isNone_iff_eq_none.mp hAfter]
      rfl
  | some m =>
      rw [hBefore] at hKind
      rcases Option.isSome_iff_exists.mp hKind with ⟨later, hAfter⟩
      rw [hAfter]
      rfl

theorem told?_controlMode
    (owners : Owners)
    (place : Binary64)
    (c : MotorCommand) :
    MotorRegister.told? owners place c .controlMode = c.mode? := by
  cases c <;> rfl

/- Where there is no motor no change is reported. -/
theorem modeChanges_of_none
    (hNone : slot.controlMode? = none) :
    c.modeChanges slot = [] := by
  unfold modeChanges
  split
  · rename_i mode m _ hState
    rw [Slot.controlMode?_of_state hState] at hNone
    cases hNone
  · rfl

/-
  An operation reports the change from the mode before it to
  the mode after it, unless it publishes the mode.
-/
theorem modeChanges_eq
    {mode : ControlMode}
    (hMode : slot.controlMode? = some mode)
    (hUnpublished :
      ∀ edit meanwhile,
        c = .publish .motor edit meanwhile →
          MotorRegister.write? env slot .controlMode c = none) :
    c.modeChanges slot =
      ModeChange.between mode
        ((MotorRegister.write? env slot .controlMode c).getD
          mode) := by
  have hSame : ModeChange.between mode mode = [] := if_pos rfl
  cases c
  case publish k edit meanwhile =>
    cases k
    case motor =>
      rw [hUnpublished edit meanwhile rfl]
      exact hSame.symm
    all_goals exact hSame.symm
  case motor c =>
    cases c with
    | ask q => exact hSame.symm
    | ignored c => exact hSame.symm
    | tell c =>
        simp only [modeChanges, mode?, MotorRegister.write?]
        cases hState : slot.stateOf .motor with
        | error e => cases c.mode? <;> exact hSame.symm
        | ok m =>
            rw [Slot.controlMode?_of_state hState] at hMode
            cases hMode
            dsimp only
            rw [told?_controlMode]
            cases c.mode? with
            | none => exact hSame.symm
            | some mode => rfl
  all_goals exact hSame.symm

end Changes

end SlotCall

end DeviceBay
