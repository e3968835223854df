import DeviceBay.Proofs.Slot.Held

/-
  This file splits the state of a motor into independent
  registers. It lists which commands write which registers and
  which registers answer which queries, and proves that each
  operation writes what the list says and nothing else.

  Key definitions include:
    * `MotorRegister`
    * `MotorRegister.Value`
    * `MotorRegister.zero`
    * `MotorRegister.told?`
    * `MotorRegister.write?`
    * `MotorRegister.cell`
    * `MotorQuery.recall`

  Main declarations:
    * `MotorQuery.read_eq_recall`
    * `MotorRegister.get_apply`
    * `MotorRegister.held_apply`
-/

namespace DeviceBay

------------------------------------------------------------
-- Registers
------------------------------------------------------------

/-
  The registers of a motor. The flag byte counts as two: the
  bit that says that the motor runs reversed, and the other
  seven bits, whether they have a name or not.
-/
inductive MotorRegister
  | brakeMode
  | controlMode
  | encoderUnits
  | gearset
  | positionTuning
  | velocityTuning
  | velocityTarget
  | velocityMax
  | current
  | currentMax
  | voltage
  | voltageMax
  | position
  | positionTarget
  | velocity
  | power
  | torque
  | efficiency
  | temperature
  | faults
  | reverse
  | otherFlags
deriving DecidableEq

namespace MotorRegister

abbrev Value : MotorRegister → Type
  | .brakeMode => BrakeMode
  | .controlMode => ControlMode
  | .encoderUnits => EncoderUnits
  | .gearset => Gearset
  | .positionTuning => TuningRef
  | .velocityTuning => TuningRef
  | .velocityTarget => Int32
  | .velocityMax => Int32
  | .current => Int32
  | .currentMax => Int32
  | .voltage => Int32
  | .voltageMax => Int32
  | .position => Binary64
  | .positionTarget => Binary64
  | .velocity => Binary64
  | .power => Binary64
  | .torque => Binary64
  | .efficiency => Binary64
  | .temperature => Binary64
  | .faults => MotorFaults
  | .reverse => Bool
  | .otherFlags => BitVec 8

instance
    (r : MotorRegister) : DecidableEq r.Value :=
  match r with
  | .brakeMode => inferInstanceAs (DecidableEq BrakeMode)
  | .controlMode => inferInstanceAs (DecidableEq ControlMode)
  | .encoderUnits => inferInstanceAs (DecidableEq EncoderUnits)
  | .gearset => inferInstanceAs (DecidableEq Gearset)
  | .positionTuning | .velocityTuning =>
      inferInstanceAs (DecidableEq TuningRef)
  | .velocityTarget | .velocityMax | .current | .currentMax
  | .voltage | .voltageMax => inferInstanceAs (DecidableEq Int32)
  | .position | .positionTarget | .velocity | .power | .torque
  | .efficiency | .temperature =>
      inferInstanceAs (DecidableEq Binary64)
  | .faults => inferInstanceAs (DecidableEq MotorFaults)
  | .reverse => inferInstanceAs (DecidableEq Bool)
  | .otherFlags => inferInstanceAs (DecidableEq (BitVec 8))

/- What a register of a motor holds that was just installed. -/
def zero : (r : MotorRegister) → r.Value
  | .brakeMode => .coast
  | .controlMode => .off
  | .encoderUnits => .degrees
  | .gearset => .red
  | .positionTuning => none
  | .velocityTuning => none
  | .velocityTarget => (0 : Int32)
  | .velocityMax => (0 : Int32)
  | .current => (0 : Int32)
  | .currentMax => (0 : Int32)
  | .voltage => (0 : Int32)
  | .voltageMax => (0 : Int32)
  | .position => .zero
  | .positionTarget => .zero
  | .velocity => .zero
  | .power => .zero
  | .torque => .zero
  | .efficiency => .zero
  | .temperature => .zero
  | .faults => Flags.empty
  | .reverse => false
  | .otherFlags => (0 : BitVec 8)

/- The bits of the flag byte other than the one for reverse. -/
def otherMask : BitVec 8 :=
  ~~~MotorFlags.reverse.bits

def get
    (m : Motor) : (r : MotorRegister) → r.Value
  | .brakeMode => m.brakeMode
  | .controlMode => m.controlMode
  | .encoderUnits => m.encoderUnits
  | .gearset => m.gearset
  | .positionTuning => m.positionTuning
  | .velocityTuning => m.velocityTuning
  | .velocityTarget => m.velocityTarget
  | .velocityMax => m.velocityMax
  | .current => m.current
  | .currentMax => m.currentMax
  | .voltage => m.voltage
  | .voltageMax => m.voltageMax
  | .position => m.position
  | .positionTarget => m.positionTarget
  | .velocity => m.velocity
  | .power => m.power
  | .torque => m.torque
  | .efficiency => m.efficiency
  | .temperature => m.temperature
  | .faults => m.faults
  | .reverse => m.flags.bits.getLsbD 4
  | .otherFlags => m.flags.bits &&& otherMask

/- The flag byte put together again. -/
def flagsOf
    (reverse : Bool)
    (otherFlags : BitVec 8) : MotorFlags :=
  if reverse then
    ⟨otherFlags ||| MotorFlags.reverse.bits⟩
  else
    ⟨otherFlags⟩

------------------------------------------------------------
-- Writers and readers
------------------------------------------------------------

/-
  What a command writes into a register, given the position
  that the motor is at. A command writes one register, or a
  target and the control mode that goes with it.
-/
def told?
    (owners : Owners)
    (place : Binary64) :
    MotorCommand → (r : MotorRegister) → Option r.Value
  | .setVelocity rpm, .velocityTarget => some rpm
  | .setVelocity _, .controlMode => some .velocity
  | .updateVelocity rpm, .velocityTarget => some rpm
  | .setVoltage millivolts, .voltage => some millivolts
  | .setVoltage _, .controlMode => some .undefined
  | .setPositionTarget target _, .positionTarget => some target
  | .setPositionTarget _ topSpeed, .velocityMax => some topSpeed
  | .setPositionTarget _ _, .controlMode => some .profile
  | .setRelativePositionTarget delta _, .positionTarget =>
      some (place + delta)
  | .setRelativePositionTarget _ topSpeed, .velocityMax =>
      some topSpeed
  | .setRelativePositionTarget _ _, .controlMode => some .profile
  | .setMode mode, .controlMode => some mode
  | .setCurrentLimit milliamps, .currentMax => some milliamps
  | .setVoltageLimit millivolts, .voltageMax => some millivolts
  | .setPositionTuning owner, .positionTuning =>
      some (owners.allocation? owner)
  | .setVelocityTuning owner, .velocityTuning =>
      some (owners.allocation? owner)
  | .setReversed reversed, .reverse => some reversed
  | .setDirection direction, .reverse => some direction.isReverse
  | .setEncoderUnits units, .encoderUnits => some units
  | .setBrakeMode mode, .brakeMode => some mode
  | .setPosition target, .position => some target
  | .resetPosition, .position => some .zero
  | .setGearset gears, .gearset => some gears
  | _, _ => none

end MotorRegister

/- What a query answers, given what each register holds. -/
def MotorQuery.recall
    (env : Env)
    (stamp : Instant)
    (held : (r : MotorRegister) → r.Value) :
    (q : MotorQuery) → q.Answer
  | .velocity => held .velocityTarget
  | .actualVelocity => held .velocity
  | .voltage => held .voltage
  | .positionTarget => held .positionTarget
  | .profileVelocity => held .velocityMax
  | .mode => held .controlMode
  | .currentLimit => held .currentMax
  | .voltageLimit => held .voltageMax
  | .positionTuning => env.owners.held? (held .positionTuning)
  | .velocityTuning => env.owners.held? (held .velocityTuning)
  | .current => held .current
  | .power => held .power
  | .torque => held .torque
  | .efficiency => held .efficiency
  | .temperature => held .temperature
  | .isOverTemperature =>
      env.config.temperatureLimit.less (held .temperature)
  | .isCurrentLimited => (held .otherFlags).getLsbD 1
  | .isZeroVelocity => (held .otherFlags).getLsbD 2
  | .isZeroPosition => (held .otherFlags).getLsbD 3
  | .faults => held .faults
  | .flags =>
      MotorRegister.flagsOf (held .reverse) (held .otherFlags)
  | .isReversed => held .reverse
  | .direction => if held .reverse then .reverse else .forward
  | .encoderUnits => held .encoderUnits
  | .brakeMode => held .brakeMode
  | .position => held .position
  | .rawPosition => ((held .position).toInt32, stamp)
  | .gearset => held .gearset

------------------------------------------------------------
-- The flag byte
------------------------------------------------------------

namespace MotorRegister

theorem contains_reverse
    (x : BitVec 8) :
    (x &&& MotorFlags.reverse.bits == MotorFlags.reverse.bits) =
      x.getLsbD 4 := by
  revert x
  decide

theorem contains_currentLimit
    (x : BitVec 8) :
    (x &&& MotorFlags.currentLimit.bits ==
        MotorFlags.currentLimit.bits) =
      (x &&& otherMask).getLsbD 1 := by
  revert x
  decide

theorem contains_zeroVelocity
    (x : BitVec 8) :
    (x &&& MotorFlags.zeroVelocity.bits ==
        MotorFlags.zeroVelocity.bits) =
      (x &&& otherMask).getLsbD 2 := by
  revert x
  decide

theorem contains_zeroPosition
    (x : BitVec 8) :
    (x &&& MotorFlags.zeroPosition.bits ==
        MotorFlags.zeroPosition.bits) =
      (x &&& otherMask).getLsbD 3 := by
  revert x
  decide

/- The two registers of the flag byte make it up. -/
theorem flagsOf_bits
    (x : BitVec 8) :
    flagsOf (x.getLsbD 4) (x &&& otherMask) = ⟨x⟩ := by
  revert x
  decide

theorem reverse_insertIf
    (x : BitVec 8)
    (reversed : Bool) :
    ((⟨x⟩ : MotorFlags).insertIf MotorFlags.reverse
        reversed).bits.getLsbD 4 =
      reversed := by
  revert x reversed
  decide

/- No other bit moves, whether it has a name or not. -/
theorem otherFlags_insertIf
    (x : BitVec 8)
    (reversed : Bool) :
    ((⟨x⟩ : MotorFlags).insertIf MotorFlags.reverse
        reversed).bits &&& otherMask =
      x &&& otherMask := by
  revert x reversed
  decide

theorem get_setReversed
    (owners : Owners)
    (m : Motor)
    (reversed : Bool)
    (r : MotorRegister) :
    get (m.setReversed reversed) r =
      (told? owners m.position (.setReversed reversed) r).getD
        (get m r) := by
  cases r
  case reverse => exact reverse_insertIf m.flags.bits reversed
  case otherFlags => exact otherFlags_insertIf m.flags.bits reversed
  all_goals rfl

/- A command writes what is listed, and no other register. -/
theorem get_apply
    (owners : Owners)
    (c : MotorCommand)
    (m : Motor)
    (r : MotorRegister) :
    get (c.apply owners m) r =
      (told? owners m.position c r).getD (get m r) := by
  cases c
  case setReversed reversed =>
    exact get_setReversed owners m reversed r
  case setDirection direction =>
    have hReversed := get_setReversed owners m direction.isReverse r
    have hTold :
        told? owners m.position (.setDirection direction) r =
          told? owners m.position
            (.setReversed direction.isReverse) r := by
      cases r <;> rfl
    rw [hTold]
    exact hReversed
  all_goals cases r <;> rfl

end MotorRegister

/- A query reads the registers that answer it, and no other. -/
theorem MotorQuery.read_eq_recall
    (env : Env)
    (m : Motor)
    (stamp : Instant)
    (q : MotorQuery) :
    q.read env m stamp = q.recall env stamp (MotorRegister.get m) := by
  cases q
  case isCurrentLimited =>
    exact MotorRegister.contains_currentLimit m.flags.bits
  case isZeroVelocity =>
    exact MotorRegister.contains_zeroVelocity m.flags.bits
  case isZeroPosition =>
    exact MotorRegister.contains_zeroPosition m.flags.bits
  case flags => exact (MotorRegister.flagsOf_bits m.flags.bits).symm
  case isReversed =>
    exact MotorRegister.contains_reverse m.flags.bits
  case direction =>
    have hReverse := MotorRegister.contains_reverse m.flags.bits
    exact congrArg Direction.ofReversed hReverse
  all_goals rfl

------------------------------------------------------------
-- Registers of slots
------------------------------------------------------------

namespace MotorRegister

/- What a register holds in a slot, be the motor in reach or not. -/
def held
    (slot : Slot)
    (r : MotorRegister) : r.Value :=
  get ((slot.stateAs? .motor).getD {}) r

/-
  What an operation on a slot writes into a register. A state
  that is published from outside counts where it is different.
-/
def write?
    (env : Env)
    (slot : Slot)
    (r : MotorRegister) : SlotCall → Option r.Value
  | .motor (.tell c) =>
      match slot.stateOf .motor with
      | .error _ => none
      | .ok m => told? env.owners m.position c r
  | .publish .motor edit _ =>
      match slot.stateOf .motor with
      | .error _ => none
      | .ok m =>
          if get (edit m) r = get m r then
            none
          else
            some (get (edit m) r)
  | _ => none

theorem get_default
    (r : MotorRegister) :
    get {} r = r.zero := by
  cases r <;> rfl

theorem held_of_state
    {slot : Slot}
    {m : Motor}
    (hState : slot.stateOf .motor = .ok m)
    (r : MotorRegister) :
    held slot r = get m r :=
  Slot.held_of_state (k := .motor) (fun m => get m r) hState

/- A motor that was just installed has zero in all registers. -/
theorem held_of_installs
    (env : Env)
    (clock : Clock)
    (slot : Slot)
    {c : SlotCall}
    (hInstalls : c.installs = true)
    (r : MotorRegister) :
    held ((c.effect env clock slot).apply slot) r = r.zero := by
  have hFresh :=
    Slot.held_of_installs env clock slot (k := .motor)
      (fun m => get m r) hInstalls
  exact hFresh.trans r.get_default

/- A command writes the registers of a motor that is in reach. -/
theorem held_tell
    (env : Env)
    (clock : Clock)
    (slot : Slot)
    (c : MotorCommand)
    (r : MotorRegister) :
    held
        (((SlotCall.motor (.tell c)).effect env clock slot).apply
          slot) r =
      (write? env slot r (.motor (.tell c))).getD
        (held slot r) := by
  have hWritten :
      write? env slot r (.motor (.tell c)) =
        slot.written? .motor
          (fun m => told? env.owners m.position c r) := by
    cases hState : slot.stateOf .motor <;>
      simp only [write?, Slot.written?, hState]
  rw [hWritten]
  exact slot.held_update (k := .motor) clock (c.apply env.owners)
    (fun m => get m r) _ (fun m => get_apply env.owners c m r)

theorem held_publish
    (env : Env)
    (clock : Clock)
    (slot : Slot)
    (edit : Motor → Motor)
    (meanwhile : Option Duration)
    (r : MotorRegister) :
    held ((Effect.update clock .motor edit).apply slot) r =
      (write? env slot r (.publish .motor edit meanwhile)).getD
        (held slot r) := by
  have hWritten :
      write? env slot r (.publish .motor edit meanwhile) =
        slot.written? .motor
          (fun m =>
            if get (edit m) r = get m r then
              none
            else
              some (get (edit m) r)) := by
    cases hState : slot.stateOf .motor <;>
      simp only [write?, Slot.written?, hState]
  rw [hWritten]
  apply slot.held_update (k := .motor) clock edit
    (fun m => get m r)
  intro m
  split
  · assumption
  · rfl

/-
  Only what an operation is listed to write changes in a
  register, unless it installs something.
-/
theorem held_apply
    (env : Env)
    (clock : Clock)
    (slot : Slot)
    {c : SlotCall}
    (hKeeps : c.installs = false)
    (r : MotorRegister) :
    held ((c.effect env clock slot).apply slot) r =
      (write? env slot r c).getD (held slot r) := by
  have hOthers (effect : Effect) (hSpares : effect.Spares .motor) :
      held (effect.apply slot) r = held slot r :=
    slot.held_of_spares (k := .motor) (fun m => get m r) effect
      hSpares
  cases c
  case presence c =>
    exact slot.held_presence (k := .motor) (fun m => get m r)
      hKeeps
  case publish k edit meanwhile =>
    cases k
    case motor =>
      exact held_publish env clock slot edit meanwhile r
    all_goals exact hOthers (.update clock _ edit) nofun
  case motor c =>
    cases c with
    | ask q => rfl
    | tell c => exact held_tell env clock slot c r
    | ignored c => rfl
  case imu c =>
    exact hOthers _ (c.effect_spares env.config clock slot nofun)
  case sensor c => exact hOthers _ (c.effect_spares clock nofun nofun)
  case line c => exact hOthers _ (c.effect_spares clock nofun)
  all_goals rfl

/- A register of the motor in a slot, as a cell. -/
def cell
    (r : MotorRegister) : Slot.Cell r.Value where
  read slot := r.held slot
  initial := r.zero
  write? env slot := r.write? env slot
  read_vacant _ := r.get_default
  read_of_installs env clock slot _ hInstalls :=
    held_of_installs env clock slot hInstalls r
  read_apply env clock slot _ hKeeps :=
    held_apply env clock slot hKeeps r

end MotorRegister

end DeviceBay
