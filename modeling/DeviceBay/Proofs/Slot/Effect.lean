import DeviceBay.Bench.SlotCall
import DeviceBay.Proofs.Slot.Calibration

/-
  This file says once what each operation does to its slot:
  nothing, a change of what is in it, or one guarded update of
  the state of one kind. All that is known about slots over
  time is read off this list.

  Key definitions include:
    * `Slot.stateAs?`
    * `Effect`
    * `Effect.apply`
    * `Effect.stamp?`
    * `Effect.Spares`
    * `Effect.Stays`
    * `SlotCall.effect`
    * `SlotCall.installs`
    * `SlotCall.firstReading?`
    * `Reply.Shows`

  Main declarations:
    * `Slot.update_stateAs?`
    * `Slot.update_stateOf`
    * `Effect.apply_timestamp`
    * `SlotCall.run_shows`
-/

namespace DeviceBay

------------------------------------------------------------
-- States of one kind
------------------------------------------------------------

theorem DeviceState.as?_of_ne
    {k kind : Kind}
    (state : kind.State)
    (hNe : kind ≠ k) :
    (DeviceState.of kind state).as? k = none := by
  simp [as?, hNe]

/- The state of a device of a type that was just installed. -/
theorem DeviceState.as?_forType
    (t : Option DeviceType)
    (k : Kind) :
    (forType t).as? k =
      if t = some k.deviceType then some k.zero else none := by
  cases t with
  | none => simp [forType, as?]
  | some t =>
      by_cases hType : t = k.deviceType
      · subst hType
        simp [forType]
      · have hSome : some t ≠ some k.deviceType :=
          fun hEq => hType (Option.some.inj hEq)
        rw [if_neg hSome, forType]
        cases hKind : Kind.ofType? t with
        | none => rfl
        | some kind =>
            have hEq := (Kind.ofType?_eq_some_iff t kind).mp hKind
            apply as?_of_ne
            intro hSame
            exact hType (hSame ▸ hEq)

namespace Slot

/- The state in a slot if it is of a kind, behind no guard. -/
def stateAs?
    (slot : Slot)
    (k : Kind) : Option k.State :=
  slot.state.as? k

theorem stateAs?_of_stateOf
    {slot : Slot}
    {k : Kind}
    {state : k.State}
    (hState : slot.stateOf k = .ok state) :
    slot.stateAs? k = some state := by
  have hInner := ((slot.stateOf_eq_ok_iff k state).mp hState).2
  rw [stateAs?, hInner, DeviceState.as?_of]

------------------------------------------------------------
-- Slots after an update
------------------------------------------------------------

theorem update_slot_of_error
    {slot : Slot}
    {k : Kind}
    {e : SlotError}
    (clock : Clock)
    (edit : k.State → k.State)
    (hState : slot.stateOf k = .error e) :
    (slot.update clock k edit).slot = slot := by
  simp only [update, hState]
  rfl

theorem update_readings_of_error
    {slot : Slot}
    {k : Kind}
    {e : SlotError}
    (clock : Clock)
    (edit : k.State → k.State)
    (hState : slot.stateOf k = .error e) :
    (slot.update clock k edit).readings = [] := by
  simp only [update, hState]
  rfl

/- An update is of one kind of state. -/
theorem update_stateAs?_of_ne
    (slot : Slot)
    (clock : Clock)
    {k kind : Kind}
    (edit : kind.State → kind.State)
    (hNe : kind ≠ k) :
    (slot.update clock kind edit).slot.stateAs? k =
      slot.stateAs? k := by
  cases hState : slot.stateOf kind with
  | error e => rw [update_slot_of_error clock edit hState]
  | ok before =>
      have hInner := ((slot.stateOf_eq_ok_iff kind before).mp hState).2
      rw [update_of_state clock edit hState, stateAs?, stateAs?,
        hInner, DeviceState.as?_of_ne before hNe,
        DeviceState.as?_of_ne (edit before) hNe]

theorem update_stateAs?
    {slot : Slot}
    {k : Kind}
    {before : k.State}
    (clock : Clock)
    (edit : k.State → k.State)
    (hState : slot.stateOf k = .ok before) :
    (slot.update clock k edit).slot.stateAs? k =
      some (edit before) := by
  rw [update_of_state clock edit hState, stateAs?,
    DeviceState.as?_of]

/- Past the guard an update leaves what it makes of the state. -/
theorem update_stateOf
    {slot : Slot}
    {k : Kind}
    {before : k.State}
    (clock : Clock)
    (edit : k.State → k.State)
    (hState : slot.stateOf k = .ok before) :
    (slot.update clock k edit).slot.stateOf k =
      .ok (edit before) := by
  have hType := connectedType_of_state hState
  rw [update_of_state clock edit hState]
  exact (stateOf_eq_ok_iff _ k _).mpr ⟨hType, rfl⟩

theorem update_present
    (slot : Slot)
    (clock : Clock)
    (k : Kind)
    (edit : k.State → k.State) :
    (slot.update clock k edit).slot.present = slot.present := by
  unfold update
  split <;> rfl

theorem update_deviceType
    (slot : Slot)
    (clock : Clock)
    (k : Kind)
    (edit : k.State → k.State) :
    (slot.update clock k edit).slot.deviceType =
      slot.deviceType := by
  unfold update
  split <;> rfl

end Slot

------------------------------------------------------------
-- Effects
------------------------------------------------------------

/-
  What an operation does to a slot. An update names the clock
  as it is when the timestamp is read from it.
-/
inductive Effect
  | nothing
  | presence (c : PresenceCall)
  | update (clock : Clock) (k : Kind) (edit : k.State → k.State)

namespace Effect

def apply
    (slot : Slot) : Effect → Slot
  | .nothing => slot
  | .presence c => c.apply slot
  | .update clock k edit => (slot.update clock k edit).slot

/- The reading that a successful update takes as the timestamp. -/
def stamp?
    (slot : Slot) : Effect → Option Instant
  | .update clock k _ =>
      match slot.stateOf k with
      | .error _ => none
      | .ok _ => some clock.now
  | _ => none

theorem update_readings
    (slot : Slot)
    (clock : Clock)
    (k : Kind)
    (edit : k.State → k.State) :
    (slot.update clock k edit).readings =
      ((Effect.update clock k edit).stamp? slot).toList := by
  cases hState : slot.stateOf k with
  | error e =>
      rw [Slot.update_readings_of_error clock edit hState]
      simp only [stamp?, hState]
      rfl
  | ok before =>
      rw [Slot.update_of_state clock edit hState]
      simp only [stamp?, hState]
      rfl

/- The timestamp is the reading of the update, or stays. -/
theorem apply_timestamp
    (slot : Slot)
    (effect : Effect) :
    (effect.apply slot).timestamp =
      (effect.stamp? slot).getD slot.timestamp := by
  cases effect with
  | nothing => rfl
  | presence c => cases c <;> rfl
  | update clock k edit =>
      cases hState : slot.stateOf k with
      | error e =>
          simp only [apply, Slot.update_slot_of_error clock edit
            hState, stamp?, hState]
          rfl
      | ok before =>
          simp only [apply, Slot.update_of_state clock edit hState,
            stamp?, hState]
          rfl

/- Effects that leave the states of a kind as they are. -/
def Spares
    (k : Kind) : Effect → Prop
  | .nothing => True
  | .presence _ => False
  | .update _ kind _ => kind ≠ k

/- Effects that leave the same device in the slot. -/
def Stays : Effect → Prop
  | .presence _ => False
  | _ => True

theorem Spares.stays
    {k : Kind}
    {effect : Effect}
    (hSpares : effect.Spares k) :
    effect.Stays := by
  cases effect with
  | nothing => exact trivial
  | presence c => cases hSpares
  | update clock kind edit => exact trivial

theorem apply_present
    (slot : Slot)
    {effect : Effect}
    (hStays : effect.Stays) :
    (effect.apply slot).present = slot.present := by
  cases effect with
  | nothing => rfl
  | presence c => cases hStays
  | update clock k edit => exact slot.update_present clock k edit

theorem apply_deviceType
    (slot : Slot)
    {effect : Effect}
    (hStays : effect.Stays) :
    (effect.apply slot).deviceType = slot.deviceType := by
  cases effect with
  | nothing => rfl
  | presence c => cases hStays
  | update clock k edit =>
      exact slot.update_deviceType clock k edit

theorem apply_stateAs?_of_spares
    (slot : Slot)
    {k : Kind}
    {effect : Effect}
    (hSpares : effect.Spares k) :
    (effect.apply slot).stateAs? k = slot.stateAs? k := by
  cases effect with
  | nothing => rfl
  | presence c => cases hSpares
  | update clock kind edit =>
      exact slot.update_stateAs?_of_ne clock edit hSpares

end Effect

/- Installing puts in a fresh device, all else keeps the state. -/
theorem PresenceCall.apply_stateAs?
    (slot : Slot)
    (k : Kind)
    (c : PresenceCall) :
    (c.apply slot).stateAs? k =
      match c with
      | .install t =>
          if t = some k.deviceType then some k.zero else none
      | .plugIn t =>
          if some t = some k.deviceType then some k.zero else none
      | _ => slot.stateAs? k := by
  cases c with
  | install t => exact DeviceState.as?_forType t k
  | connect => rfl
  | disconnect => rfl
  | plugIn t => exact DeviceState.as?_forType (some t) k

------------------------------------------------------------
-- The effect of each operation
------------------------------------------------------------

/-
  A reset and the end of a calibration window take the reading
  for the timestamp second, after one that is not for the slot.
-/
def ImuCall.effect
    (config : Config)
    (clock : Clock)
    (slot : Slot) : ImuCall → Effect
  | .reset =>
      .update clock.read.2 .imu
        (fun s => { s with resetAt := some clock.now })
  | .status | .isCalibrating =>
      if Imu.closes config clock.now slot then
        .update clock.read.2 .imu
          (fun s => { s with resetAt := none })
      else
        .nothing
  | _ => .nothing

def SensorCall.effect
    (clock : Clock) : SensorCall → Effect
  | .setRotationPosition position =>
      .update clock .rotation (fun s => { s with position := position })
  | .resetRotationPosition =>
      .update clock .rotation (fun s => { s with position := .zero })
  | .setGpsOffset offset =>
      .update clock .gps (fun s => { s with offset := offset })
  | _ => .nothing

def LineCall.effect
    (clock : Clock) : LineCall → Effect
  | .mode _ => .nothing
  | .setMode line use =>
      if h : line < lineCount then
        .update clock .expander
          (fun s => { s with lines := s.lines.set line use })
      else
        .nothing

def SlotCall.effect
    (env : Env)
    (clock : Clock)
    (slot : Slot) : SlotCall → Effect
  | .presence c => .presence c
  | .publish k edit _ => .update clock k edit
  | .motor (.tell c) => .update clock .motor (c.apply env.owners)
  | .imu c => c.effect env.config clock slot
  | .sensor c => c.effect clock
  | .line c => c.effect clock
  | _ => .nothing

/- Nothing but the start of the calibration window is updated. -/
theorem ImuCall.cases_of_effect
    (config : Config)
    (clock : Clock)
    (slot : Slot)
    (c : ImuCall) :
    c.effect config clock slot = .nothing ∨
      ∃ resetAt,
        c.effect config clock slot =
          .update clock.read.2 .imu
            (fun s => { s with resetAt := resetAt }) := by
  unfold ImuCall.effect
  split
  · exact Or.inr ⟨_, rfl⟩
  · split
    · exact Or.inr ⟨_, rfl⟩
    · exact Or.inl rfl
  · split
    · exact Or.inr ⟨_, rfl⟩
    · exact Or.inl rfl
  · exact Or.inl rfl

theorem ImuCall.effect_spares
    (config : Config)
    (clock : Clock)
    (slot : Slot)
    (c : ImuCall)
    {k : Kind}
    (hKind : Kind.imu ≠ k) :
    (c.effect config clock slot).Spares k := by
  rcases c.cases_of_effect config clock slot with
    hNothing | ⟨resetAt, hUpdate⟩
  · rw [hNothing]
    exact trivial
  · rw [hUpdate]
    exact hKind

theorem SensorCall.effect_spares
    (clock : Clock)
    (c : SensorCall)
    {k : Kind}
    (hRotation : Kind.rotation ≠ k)
    (hGps : Kind.gps ≠ k) :
    (c.effect clock).Spares k := by
  unfold SensorCall.effect
  split
  · exact hRotation
  · exact hRotation
  · exact hGps
  · exact trivial

theorem LineCall.effect_spares
    (clock : Clock)
    (c : LineCall)
    {k : Kind}
    (hKind : Kind.expander ≠ k) :
    (c.effect clock).Spares k := by
  cases c with
  | mode line => exact trivial
  | setMode line use =>
      simp only [LineCall.effect]
      split
      · exact hKind
      · exact trivial

/- Only presence calls change what device is in the slot. -/
theorem SlotCall.effect_stays
    (env : Env)
    (clock : Clock)
    (slot : Slot)
    (c : SlotCall)
    (hStays : ¬ ∃ p, c = .presence p) :
    (c.effect env clock slot).Stays := by
  cases c with
  | presence p => exact absurd ⟨p, rfl⟩ hStays
  | motor c => cases c <;> exact trivial
  | imu c =>
      exact (c.effect_spares env.config clock slot
        (k := .motor) nofun).stays
  | sensor c =>
      exact (c.effect_spares clock (k := .motor) nofun nofun).stays
  | line c =>
      exact (c.effect_spares clock (k := .motor) nofun).stays
  | handle c => exact trivial
  | validate expected => exact trivial
  | peek k => exact trivial
  | publish k edit meanwhile => exact trivial
  | check expected q => exact trivial
  | link id role c => exact trivial

theorem SlotCall.eq_presence_of_effect
    {env : Env}
    {clock : Clock}
    {slot : Slot}
    {c : SlotCall}
    {p : PresenceCall}
    (hEffect : c.effect env clock slot = .presence p) :
    c = .presence p := by
  by_cases hPresence : ∃ q, c = .presence q
  · rcases hPresence with ⟨q, rfl⟩
    cases hEffect
    rfl
  · have hStays := c.effect_stays env clock slot hPresence
    rw [hEffect] at hStays
    cases hStays

/- Whether an operation puts a fresh device into the slot. -/
def SlotCall.installs : SlotCall → Bool
  | .presence (.install _) => true
  | .presence (.plugIn _) => true
  | _ => false

/- A device that was just put in is in the state of its kind. -/
theorem SlotCall.stateAs?_of_installs
    (env : Env)
    (clock : Clock)
    (slot : Slot)
    {c : SlotCall}
    (hInstalls : c.installs = true)
    (k : Kind) :
    ((c.effect env clock slot).apply slot).stateAs? k = none ∨
      ((c.effect env clock slot).apply slot).stateAs? k =
        some k.zero := by
  have hEither (p : Prop) [Decidable p] :
      (if p then some k.zero else none) = none ∨
        (if p then some k.zero else none) = some k.zero := by
    split
    · exact Or.inr rfl
    · exact Or.inl rfl
  unfold installs at hInstalls
  split at hInstalls
  · rw [effect, Effect.apply, PresenceCall.apply_stateAs?]
    exact hEither _
  · rw [effect, Effect.apply, PresenceCall.apply_stateAs?]
    exact hEither _
  · cases hInstalls

/- Unless another one is put in, a device stays of its kind. -/
theorem SlotCall.stateAs?_isSome_apply
    (env : Env)
    (clock : Clock)
    (slot : Slot)
    {c : SlotCall}
    (hKeeps : c.installs = false)
    (k : Kind) :
    (((c.effect env clock slot).apply slot).stateAs? k).isSome =
      (slot.stateAs? k).isSome := by
  cases hEffect : c.effect env clock slot with
  | nothing => rfl
  | presence p =>
      cases eq_presence_of_effect hEffect
      cases p with
      | install t => cases hKeeps
      | plugIn t => cases hKeeps
      | connect => rfl
      | disconnect => rfl
  | update now kind edit =>
      by_cases hKind : kind = k
      · subst hKind
        cases hState : slot.stateOf kind with
        | error e =>
            rw [Effect.apply, Slot.update_slot_of_error _ _ hState]
        | ok before =>
            rw [Effect.apply, Slot.update_stateAs? _ _ hState,
              Slot.stateAs?_of_stateOf hState]
            rfl
      · rw [Effect.apply, slot.update_stateAs?_of_ne _ _ hKind]

/- The reading that an operation takes before its guard. -/
def SlotCall.firstReading?
    (clock : Clock) : SlotCall → Option Instant
  | .imu .reset => some clock.now
  | .imu .status => some clock.now
  | .imu .isCalibrating => some clock.now
  | _ => none

------------------------------------------------------------
-- Operations have their effects
------------------------------------------------------------

/-
  A reply that shows one effect on a slot and no other: the
  slot is as the effect leaves it, and the readings are the one
  before the guard, if any, and that of the effect, if any.
-/
structure Reply.Shows
    {ε α : Type}
    (slot : Slot)
    (first : Option Instant)
    (effect : Effect)
    (reply : Reply ε α) : Prop where
  slot_eq : reply.slot = effect.apply slot
  readings_eq :
    reply.readings = first.toList ++ (effect.stamp? slot).toList

namespace Reply

variable {ε δ α β : Type}
variable {slot : Slot} {first : Option Instant} {effect : Effect}

theorem still_shows
    (slot : Slot)
    (clock : Clock)
    (result : Except ε α) :
    (still slot clock result).Shows slot none .nothing :=
  ⟨rfl, rfl⟩

theorem Shows.map
    {reply : Reply ε α}
    (f : α → β)
    (hShows : reply.Shows slot first effect) :
    (reply.map f).Shows slot first effect :=
  ⟨hShows.slot_eq, hShows.readings_eq⟩

theorem Shows.mapError
    {reply : Reply ε α}
    (f : ε → δ)
    (hShows : reply.Shows slot first effect) :
    (reply.mapError f).Shows slot first effect :=
  ⟨hShows.slot_eq, hShows.readings_eq⟩

theorem Shows.report
    {reply : Reply ε α}
    (events : α → List Event)
    (hShows : reply.Shows slot first effect) :
    (reply.report events).Shows slot first effect := by
  constructor
  · rw [report_slot]
    exact hShows.slot_eq
  · rw [report_readings]
    exact hShows.readings_eq

end Reply

theorem Slot.update_shows
    (slot : Slot)
    (clock : Clock)
    (k : Kind)
    (edit : k.State → k.State) :
    (slot.update clock k edit).Shows slot none
      (.update clock k edit) :=
  ⟨rfl, Effect.update_readings slot clock k edit⟩

section Runs

variable (env : Env) (clock : Clock) (slot : Slot)

theorem MotorCall.run_shows
    (c : MotorCall) :
    (c.run env clock slot).Shows slot none
      ((SlotCall.motor c).effect env clock slot) := by
  cases c with
  | ask q => exact Reply.still_shows slot clock _
  | tell c =>
      have hUpdate :=
        slot.update_shows clock .motor (c.apply env.owners)
      exact (hUpdate.report _).map _ |>.map _
  | ignored c =>
      have hStill :=
        Reply.still_shows slot clock
          ((slot.validate .motor).map (fun _ => c.answer))
      exact (hStill.report _).map _

theorem Imu.reset_shows
    (config : Config) :
    (Imu.reset clock slot).Shows slot (some clock.now)
      (ImuCall.reset.effect config clock slot) := by
  cases hState : slot.stateOf .imu with
  | error e =>
      rw [reset_of_error clock hState]
      constructor
      · simp only [ImuCall.effect, Effect.apply,
          Slot.update_slot_of_error clock.read.2 _ hState]
      · simp [ImuCall.effect, Effect.stamp?, hState]
  | ok s =>
      rw [reset_of_state clock hState]
      constructor
      · simp only [ImuCall.effect, Effect.apply,
          Slot.update_of_state (k := .imu) clock.read.2 _ hState]
      · simp [ImuCall.effect, Effect.stamp?, hState]

/- Only the read that closes the window updates the slot. -/
theorem Imu.status_shows
    (config : Config) :
    (Imu.status config clock slot).Shows slot (some clock.now)
      (ImuCall.status.effect config clock slot) := by
  cases hState : slot.stateOf .imu with
  | error e =>
      rw [status_of_error config clock hState]
      constructor <;>
        simp [ImuCall.effect, closes, hState, Effect.apply,
          Effect.stamp?]
  | ok s =>
      cases hReset : s.resetAt with
      | none =>
          rw [status_of_none config clock hState hReset]
          constructor <;>
            simp [ImuCall.effect, closes, hState, hReset,
              Effect.apply, Effect.stamp?]
      | some start =>
          cases hOpen : windowOpen config clock.now start with
          | true =>
              rw [status_of_open config clock hState hReset hOpen]
              constructor <;>
                simp [ImuCall.effect, closes, hState, hReset,
                  hOpen, Effect.apply, Effect.stamp?]
          | false =>
              rw [status_of_over config clock hState hReset hOpen]
              constructor <;>
                simp [ImuCall.effect, closes, hState, hReset,
                  hOpen, Effect.apply, Effect.stamp?,
                  Slot.update_of_state]

theorem ImuCall.run_shows
    (c : ImuCall) :
    (c.run env clock slot).Shows slot
      ((SlotCall.imu c).firstReading? clock)
      (c.effect env.config clock slot) := by
  cases c with
  | ask q => exact Reply.still_shows slot clock _
  | quaternion => exact Reply.still_shows slot clock _
  | mode => exact Reply.still_shows slot clock _
  | reset => exact (Imu.reset_shows clock slot env.config).map _
  | status => exact (Imu.status_shows clock slot env.config).map _
  | isCalibrating =>
      have hStatus := Imu.status_shows clock slot env.config
      exact (hStatus.map _).map _
  | ignored c =>
      have hStill :=
        Reply.still_shows slot clock (slot.validate .imu)
      exact (hStill.report _).map _

theorem SensorCall.run_shows
    (c : SensorCall) :
    (c.run clock slot).Shows slot none (c.effect clock) := by
  cases c with
  | rotationPosition => exact Reply.still_shows slot clock _
  | setRotationPosition position =>
      exact ((slot.update_shows clock .rotation _).map _).map _
  | resetRotationPosition =>
      exact ((slot.update_shows clock .rotation _).map _).map _
  | distance => exact Reply.still_shows slot clock _
  | optical q => exact Reply.still_shows slot clock _
  | gps q => exact Reply.still_shows slot clock _
  | setGpsOffset offset =>
      exact ((slot.update_shows clock .gps _).map _).map _

theorem LineCall.run_shows
    (c : LineCall) :
    (c.run clock slot).Shows slot none (c.effect clock) := by
  cases c with
  | mode line => exact Reply.still_shows slot clock _
  | setMode line use =>
      simp only [LineCall.run, Expander.setLineMode,
        LineCall.effect]
      split
      · have hUpdate := slot.update_shows clock .expander
          (fun s => { s with lines := s.lines.set line use })
        exact (hUpdate.map _).mapError _ |>.map _
      · exact (Reply.still_shows slot clock _).map _

/- Every operation has its effect on the slot and no other. -/
theorem SlotCall.run_shows
    (c : SlotCall) :
    (c.run env clock slot).Shows slot (c.firstReading? clock)
      (c.effect env clock slot) := by
  cases c with
  | presence c => exact ⟨rfl, rfl⟩
  | handle c => exact Reply.still_shows slot clock _
  | validate expected => exact Reply.still_shows slot clock _
  | peek k => exact Reply.still_shows slot clock _
  | publish k edit meanwhile =>
      have hUpdate := slot.update_shows clock k edit
      constructor
      · simp only [SlotCall.run, Reply.mapError_slot,
          Reply.map_slot, Slot.publish_slot]
        exact hUpdate.slot_eq
      · simp only [SlotCall.run, Reply.mapError_readings,
          Reply.map_readings, Slot.publish_readings]
        exact hUpdate.readings_eq
  | check expected q => exact Reply.still_shows slot clock _
  | motor c => exact (c.run_shows env clock slot).mapError _
  | imu c => exact (c.run_shows env clock slot).mapError _
  | sensor c => exact (c.run_shows clock slot).mapError _
  | line c => exact (c.run_shows clock slot).mapError _
  | link id role c => exact ⟨rfl, rfl⟩

end Runs

end DeviceBay
