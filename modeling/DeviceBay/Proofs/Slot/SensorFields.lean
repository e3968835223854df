import DeviceBay.Proofs.Slot.Guarded
import DeviceBay.Proofs.Slot.Held
import DeviceBay.Proofs.Surface.Typed

/-
  This file splits the states of the sensors into independent
  fields, down to the components of their vectors. It lists
  which operations write which fields and which fields each
  reader answers from, and proves that an operation changes a
  field only by writing it. Readers that show one vector in
  several ways name the same fields.

  Key definitions include:
    * `Axis`
    * `SensorField`
    * `SensorField.told?`
    * `SensorField.write?`
    * `SensorField.cell`
    * `ImuQuery.recall`
    * `SensorReader`
    * `SensorReader.recall`
    * `RawImuCall.recall?`

  Main declarations:
    * `SensorField.held_apply`
    * `ImuQuery.value_injective`
    * `OpticalQuery.value_injective`
    * `GpsQuery.value_injective`
    * `SensorReader.eq_of_recall`
    * `SensorReader.result_of_state`
    * `RawImuCall.encode_of_recall?`
-/

namespace DeviceBay

------------------------------------------------------------
-- Components of vectors
------------------------------------------------------------

inductive Axis
  | x
  | y
  | z
  | w
deriving DecidableEq

namespace Vector4

def along
    (v : Vector4) : Axis → Binary64
  | .x => v.x
  | .y => v.y
  | .z => v.z
  | .w => v.w

def ofAxes
    (f : Axis → Binary64) : Vector4 :=
  ⟨f .x, f .y, f .z, f .w⟩

@[simp]
theorem along_ofAxes
    (f : Axis → Binary64)
    (a : Axis) :
    (ofAxes f).along a = f a := by
  cases a <;> rfl

end Vector4

------------------------------------------------------------
-- Fields
------------------------------------------------------------

/- What the sensors report. Of a vector each component counts. -/
inductive SensorField
  | orientation
  | rotation (a : Axis)
  | acceleration (a : Axis)
  | angle
  | distance
  | red
  | green
  | blue
  | brightness
  | offsetX
  | offsetY
  | position (a : Axis)
deriving DecidableEq

namespace SensorField

/- The kind of sensor that has a field. -/
abbrev kind : SensorField → Kind
  | .orientation => .imu
  | .rotation _ => .imu
  | .acceleration _ => .imu
  | .angle => .rotation
  | .distance => .distance
  | .red => .optical
  | .green => .optical
  | .blue => .optical
  | .brightness => .optical
  | .offsetX => .gps
  | .offsetY => .gps
  | .position _ => .gps

abbrev Value : SensorField → Type
  | .orientation => Orientation
  | _ => Binary64

instance
    (f : SensorField) : DecidableEq f.Value :=
  match f with
  | .orientation => inferInstanceAs (DecidableEq Orientation)
  | .rotation _ | .acceleration _ | .angle | .distance | .red
  | .green | .blue | .brightness | .offsetX | .offsetY
  | .position _ => inferInstanceAs (DecidableEq Binary64)

def get : (f : SensorField) → f.kind.State → f.Value
  | .orientation, s => Imu.orientation s
  | .rotation a, s => (Imu.rotation s).along a
  | .acceleration a, s => (Imu.acceleration s).along a
  | .angle, s => Rotation.position s
  | .distance, s => Distance.position s
  | .red, s => (Optical.color s).red
  | .green, s => (Optical.color s).green
  | .blue, s => (Optical.color s).blue
  | .brightness, s => Optical.brightness s
  | .offsetX, s => (Gps.offset s).x
  | .offsetY, s => (Gps.offset s).y
  | .position a, s => (Gps.position s).along a

/- What a field of a sensor holds that was just installed. -/
def zero : (f : SensorField) → f.Value
  | .orientation => .zUp
  | .rotation _ => .zero
  | .acceleration _ => .zero
  | .angle => .zero
  | .distance => .zero
  | .red => .zero
  | .green => .zero
  | .blue => .zero
  | .brightness => .zero
  | .offsetX => .zero
  | .offsetY => .zero
  | .position _ => .zero

theorem get_zero
    (f : SensorField) :
    f.get f.kind.zero = f.zero := by
  cases f
  case rotation a => cases a <;> rfl
  case acceleration a => cases a <;> rfl
  case position a => cases a <;> rfl
  all_goals rfl

------------------------------------------------------------
-- Writers
------------------------------------------------------------

/- What an operation of a driver writes into a field. -/
def told? : (f : SensorField) → SensorCall → Option f.Value
  | .angle, .setRotationPosition turn => some turn
  | .angle, .resetRotationPosition => some Binary64.zero
  | .offsetX, .setGpsOffset offset => some offset.x
  | .offsetY, .setGpsOffset offset => some offset.y
  | _, _ => none

/- What a state shows of a field, if it is of its kind. -/
def shown?
    (f : SensorField)
    (state : DeviceState) : Option f.Value :=
  (state.as? f.kind).map f.get

/-
  What a state that is published from outside writes into a
  field. A publication names the fields that it makes different,
  and none of another kind of sensor.
-/
def published?
    (f : SensorField)
    (k : Kind)
    (edit : k.State → k.State)
    (s : k.State) : Option f.Value :=
  if f.shown? (.of k (edit s)) = f.shown? (.of k s) then
    none
  else
    f.shown? (.of k (edit s))

/- What an operation on a slot writes into a field. -/
def write?
    (f : SensorField)
    (slot : Slot) : SlotCall → Option f.Value
  | .sensor c => slot.written? f.kind (fun _ => f.told? c)
  | .publish k edit _ => slot.written? k (f.published? k edit)
  | _ => none

/- What a field holds in a slot, be the sensor in reach or not. -/
def held
    (f : SensorField)
    (slot : Slot) : f.Value :=
  slot.held f.kind f.get

------------------------------------------------------------
-- Fields under operations
------------------------------------------------------------

theorem held_of_state
    {f : SensorField}
    {slot : Slot}
    {s : f.kind.State}
    (hState : slot.stateOf f.kind = .ok s) :
    f.held slot = f.get s :=
  Slot.held_of_state f.get hState

theorem published?_of_ne
    {f : SensorField}
    {k : Kind}
    (edit : k.State → k.State)
    (hKind : k ≠ f.kind) :
    f.published? k edit = fun _ => none := by
  funext s
  simp only [published?, shown?, DeviceState.as?_of_ne _ hKind,
    Option.map_none, if_true]

theorem get_published?
    (f : SensorField)
    (edit : f.kind.State → f.kind.State)
    (s : f.kind.State) :
    f.get (edit s) =
      (f.published? f.kind edit s).getD (f.get s) := by
  simp only [published?, shown?, DeviceState.as?_of,
    Option.map_some]
  split
  · rename_i hSame
    exact Option.some.inj hSame
  · rfl

section Operations

variable (f : SensorField)
variable (env : Env) (clock : Clock) (slot : Slot)

/- A publication writes the fields that it names, of its kind. -/
theorem held_publish
    (k : Kind)
    (edit : k.State → k.State)
    (meanwhile : Option Duration) :
    f.held ((Effect.update clock k edit).apply slot) =
      (f.write? slot (.publish k edit meanwhile)).getD
        (f.held slot) := by
  rw [write?]
  by_cases hKind : k = f.kind
  · subst hKind
    exact slot.held_update clock edit f.get
      (f.published? f.kind edit) (f.get_published? edit)
  · rw [published?_of_ne edit hKind, slot.written?_none]
    exact slot.held_of_spares f.get (.update clock k edit) hKind

/-
  All that the driver of an inertial sensor ever does is store
  or remove a reading of the clock, which is not a field.
-/
theorem held_imu
    (c : ImuCall) :
    f.held ((c.effect env.config clock slot).apply slot) =
      f.held slot := by
  by_cases hKind : Kind.imu = f.kind
  · rcases c.cases_of_effect env.config clock slot with
      hNothing | ⟨resetAt, hUpdate⟩
    · rw [hNothing]
      rfl
    · rw [hUpdate]
      cases f with
      | orientation | rotation a | acceleration a =>
          exact slot.held_update_of_keeps (k := .imu)
            clock.read.2 _ _ (fun _ => rfl)
      | _ => cases hKind
  · exact slot.held_of_spares f.get _
      (c.effect_spares env.config clock slot hKind)

/- What a driver is not told for a field leaves the field alone. -/
theorem held_of_untold
    {c : SensorCall}
    (hUntold : f.told? c = none)
    (hSpares : (c.effect clock).Spares f.kind) :
    f.held ((c.effect clock).apply slot) =
      (f.write? slot (.sensor c)).getD (f.held slot) := by
  have hNone : f.write? slot (.sensor c) = none := by
    rw [write?, hUntold]
    exact slot.written?_none f.kind
  rw [hNone]
  exact slot.held_of_spares f.get _ hSpares

/- A driver writes what it is told to write, behind the guard. -/
theorem held_sensor
    (c : SensorCall) :
    f.held ((c.effect clock).apply slot) =
      (f.write? slot (.sensor c)).getD (f.held slot) := by
  cases c with
  | setRotationPosition turn =>
      cases f with
      | angle =>
          exact slot.held_update (k := .rotation) clock _ _ _
            (fun _ => rfl)
      | _ => exact held_of_untold _ clock slot rfl nofun
  | resetRotationPosition =>
      cases f with
      | angle =>
          exact slot.held_update (k := .rotation) clock _ _ _
            (fun _ => rfl)
      | _ => exact held_of_untold _ clock slot rfl nofun
  | setGpsOffset offset =>
      cases f with
      | offsetX | offsetY | position a =>
          exact slot.held_update (k := .gps) clock _ _ _
            (fun _ => rfl)
      | _ => exact held_of_untold _ clock slot rfl nofun
  | rotationPosition | distance | optical q | gps q =>
      cases f <;> exact held_of_untold _ clock slot rfl trivial

/-
  Only what an operation is listed to write changes in a field,
  unless it installs something.
-/
theorem held_apply
    {c : SlotCall}
    (hKeeps : c.installs = false) :
    f.held ((c.effect env clock slot).apply slot) =
      (f.write? slot c).getD (f.held slot) := by
  cases c
  case presence c => exact slot.held_presence f.get hKeeps
  case publish k edit meanwhile =>
    exact f.held_publish clock slot k edit meanwhile
  case motor c =>
    cases c with
    | tell c =>
        have hKind : Kind.motor ≠ f.kind := by
          cases f <;> nofun
        exact slot.held_of_spares f.get
          (.update clock .motor (c.apply env.owners)) hKind
    | ask q => rfl
    | ignored c => rfl
  case imu c => exact f.held_imu env clock slot c
  case sensor c => exact f.held_sensor clock slot c
  case line c =>
    have hKind : Kind.expander ≠ f.kind := by
      cases f <;> nofun
    exact slot.held_of_spares f.get _ (c.effect_spares clock hKind)
  all_goals rfl

end Operations

/- A field of the sensor in a slot, as a cell. -/
def cell
    (f : SensorField) : Slot.Cell f.Value where
  read := f.held
  initial := f.zero
  write? _ := f.write?
  read_vacant _ := f.get_zero
  read_of_installs env clock slot _ hInstalls :=
    (slot.held_of_installs env clock f.get hInstalls).trans
      f.get_zero
  read_apply env clock slot _ hKeeps :=
    f.held_apply env clock slot hKeeps

end SensorField

------------------------------------------------------------
-- Readers
------------------------------------------------------------

/- What a query answers, given what each field holds. -/
def ImuQuery.recall
    (held : (f : SensorField) → f.Value) :
    (q : ImuQuery) → q.Answer
  | .heading => held (.rotation .z)
  | .degrees => Binary64.remainderBy (held (.rotation .z)) 360
  | .attitude =>
      { pitch := held (.rotation .x)
        roll := held (.rotation .y)
        yaw := held (.rotation .z) }
  | .rawGyro => .ofAxes (fun a => held (.rotation a))
  | .rawAccel => .ofAxes (fun a => held (.acceleration a))
  | .orientation => held .orientation

def OpticalQuery.recall
    (held : (f : SensorField) → f.Value) :
    (q : OpticalQuery) → q.Answer
  | .color => ⟨held .red, held .green, held .blue⟩
  | .brightness => held .brightness
  | .rgb =>
      ⟨held .red, held .green, held .blue, held .brightness⟩

def GpsQuery.recall
    (held : (f : SensorField) → f.Value) :
    (q : GpsQuery) → q.Answer
  | .offset => ⟨held .offsetX, held .offsetY⟩
  | .rawPosition => .ofAxes (fun a => held (.position a))

/- A question to the driver of some sensor. -/
inductive SensorReader
  | imu (q : ImuQuery)
  | rotationPosition
  | distance
  | optical (q : OpticalQuery)
  | gps (q : GpsQuery)
deriving DecidableEq

namespace SensorReader

/- The kind of sensor that is asked. -/
def kind : SensorReader → Kind
  | .imu _ => .imu
  | .rotationPosition => .rotation
  | .distance => .distance
  | .optical _ => .optical
  | .gps _ => .gps

def call : SensorReader → SlotCall
  | .imu q => .imu (.ask q)
  | .rotationPosition => .sensor .rotationPosition
  | .distance => .sensor .distance
  | .optical q => .sensor (.optical q)
  | .gps q => .sensor (.gps q)

end SensorReader

def SensorReader.recall
    (held : (f : SensorField) → f.Value) : SensorReader → Value
  | .imu q => q.value (q.recall held)
  | .rotationPosition => .float (held .angle)
  | .distance => .float (held .distance)
  | .optical q => q.value (q.recall held)
  | .gps q => q.value (q.recall held)

------------------------------------------------------------
-- Answers that lose nothing
------------------------------------------------------------

theorem Value.ofVector4_injective :
    Function.Injective Value.ofVector4 := by
  rintro ⟨x, y, z, w⟩ ⟨x', y', z', w'⟩ hSame
  simpa [Value.ofVector4] using hSame

theorem ImuQuery.value_injective
    (q : ImuQuery) :
    Function.Injective q.value := by
  intro a b hSame
  cases q with
  | heading | degrees => exact Value.float.inj hSame
  | attitude => exact Value.attitude.inj hSame
  | rawGyro | rawAccel => exact Value.ofVector4_injective hSame
  | orientation => exact Value.orientation.inj hSame

theorem OpticalQuery.value_injective
    (q : OpticalQuery) :
    Function.Injective q.value := by
  intro a b hSame
  cases q with
  | color =>
      rcases a with ⟨red, green, blue⟩
      rcases b with ⟨red', green', blue'⟩
      simpa [OpticalQuery.value, Value.ofColor] using hSame
  | brightness => exact Value.float.inj hSame
  | rgb =>
      rcases a with ⟨red, green, blue, brightness⟩
      rcases b with ⟨red', green', blue', brightness'⟩
      simpa [OpticalQuery.value, Value.ofOpticalRgb] using hSame

theorem GpsQuery.value_injective
    (q : GpsQuery) :
    Function.Injective q.value := by
  intro a b hSame
  cases q with
  | offset =>
      rcases a with ⟨x, y⟩
      rcases b with ⟨x', y'⟩
      simpa [GpsQuery.value, Value.ofPoint] using hSame
  | rawPosition => exact Value.ofVector4_injective hSame

/- What all readers of a sensor answer tells each of its fields. -/
theorem SensorReader.eq_of_recall
    {one other : (f : SensorField) → f.Value}
    (f : SensorField)
    (hRecall :
      ∀ r : SensorReader, r.kind = f.kind →
        r.recall one = r.recall other) :
    one f = other f := by
  cases f with
  | orientation =>
      exact Value.orientation.inj (hRecall (.imu .orientation) rfl)
  | rotation a =>
      have hVector := ImuQuery.value_injective .rawGyro
        (hRecall (.imu .rawGyro) rfl)
      simpa [ImuQuery.recall] using
        congrArg (fun v => v.along a) hVector
  | acceleration a =>
      have hVector := ImuQuery.value_injective .rawAccel
        (hRecall (.imu .rawAccel) rfl)
      simpa [ImuQuery.recall] using
        congrArg (fun v => v.along a) hVector
  | angle => exact Value.float.inj (hRecall .rotationPosition rfl)
  | distance => exact Value.float.inj (hRecall .distance rfl)
  | red =>
      exact congrArg Color.red
        (OpticalQuery.value_injective .color
          (hRecall (.optical .color) rfl))
  | green =>
      exact congrArg Color.green
        (OpticalQuery.value_injective .color
          (hRecall (.optical .color) rfl))
  | blue =>
      exact congrArg Color.blue
        (OpticalQuery.value_injective .color
          (hRecall (.optical .color) rfl))
  | brightness =>
      exact Value.float.inj (hRecall (.optical .brightness) rfl)
  | offsetX =>
      exact congrArg Point.x
        (GpsQuery.value_injective .offset
          (hRecall (.gps .offset) rfl))
  | offsetY =>
      exact congrArg Point.y
        (GpsQuery.value_injective .offset
          (hRecall (.gps .offset) rfl))
  | position a =>
      have hVector := GpsQuery.value_injective .rawPosition
        (hRecall (.gps .rawPosition) rfl)
      simpa [GpsQuery.recall] using
        congrArg (fun v => v.along a) hVector

------------------------------------------------------------
-- Raw readers
------------------------------------------------------------

/-
  What a raw call delivers, given what each field holds, if it
  reads any. A buffer is filled in the order of its components.
-/
def RawImuCall.recall?
    (held : (f : SensorField) → f.Value) :
    RawImuCall → Option Value
  | .headingGet => some (.float (held (.rotation .z)))
  | .degreesGet =>
      some (.float (Binary64.remainderBy (held (.rotation .z)) 360))
  | .attitudeGet _ =>
      some (.floats
        [held (.rotation .x), held (.rotation .y),
          held (.rotation .z)])
  | .rawGyroGet _ =>
      some (.floats
        [held (.rotation .x), held (.rotation .y),
          held (.rotation .z), held (.rotation .w)])
  | .rawAccelGet _ =>
      some (.floats
        [held (.acceleration .x), held (.acceleration .y),
          held (.acceleration .z), held (.acceleration .w)])
  | _ => none

section Readers

variable {slot : Slot}

/- A query reads the fields that answer it, and no other. -/
theorem ImuQuery.read_eq_recall
    {s : Imu}
    (hState : slot.stateOf .imu = .ok s)
    (q : ImuQuery) :
    q.read s = q.recall (fun f => f.held slot) := by
  have hOrientation :
      SensorField.orientation.held slot = s.orientation :=
    SensorField.held_of_state (f := .orientation) hState
  have hRotation (a : Axis) :
      (SensorField.rotation a).held slot = s.rotation.along a :=
    SensorField.held_of_state (f := .rotation a) hState
  have hAcceleration (a : Axis) :
      (SensorField.acceleration a).held slot =
        s.acceleration.along a :=
    SensorField.held_of_state (f := .acceleration a) hState
  cases q <;>
    simp only [ImuQuery.recall, hOrientation, hRotation,
      hAcceleration] <;>
    rfl

theorem OpticalQuery.read_eq_recall
    {s : Optical}
    (hState : slot.stateOf .optical = .ok s)
    (q : OpticalQuery) :
    q.read s = q.recall (fun f => f.held slot) := by
  have hRed : SensorField.red.held slot = s.color.red :=
    SensorField.held_of_state (f := .red) hState
  have hGreen : SensorField.green.held slot = s.color.green :=
    SensorField.held_of_state (f := .green) hState
  have hBlue : SensorField.blue.held slot = s.color.blue :=
    SensorField.held_of_state (f := .blue) hState
  have hBrightness :
      SensorField.brightness.held slot = s.brightness :=
    SensorField.held_of_state (f := .brightness) hState
  cases q <;>
    simp only [OpticalQuery.recall, hRed, hGreen, hBlue,
      hBrightness] <;>
    rfl

theorem GpsQuery.read_eq_recall
    {s : Gps}
    (hState : slot.stateOf .gps = .ok s)
    (q : GpsQuery) :
    q.read s = q.recall (fun f => f.held slot) := by
  have hOffsetX : SensorField.offsetX.held slot = s.offset.x :=
    SensorField.held_of_state (f := .offsetX) hState
  have hOffsetY : SensorField.offsetY.held slot = s.offset.y :=
    SensorField.held_of_state (f := .offsetY) hState
  have hPosition (a : Axis) :
      (SensorField.position a).held slot = s.position.along a :=
    SensorField.held_of_state (f := .position a) hState
  cases q <;>
    simp only [GpsQuery.recall, hOffsetX, hOffsetY, hPosition] <;>
    rfl

/- Behind the guard each reader answers from its fields. -/
theorem SensorReader.result_of_state
    (env : Env)
    (clock : Clock)
    (r : SensorReader)
    {s : r.kind.State}
    (hState : slot.stateOf r.kind = .ok s) :
    (r.call.run env clock slot).result =
      .ok (r.recall (fun f => f.held slot)) := by
  cases r with
  | imu q =>
      have hAsk : q.ask slot = .ok (q.read s) :=
        Slot.look_of_state (k := .imu) _ hState
      rw [ImuQuery.read_eq_recall hState] at hAsk
      simp only [call, SlotCall.run, ImuCall.run,
        Reply.mapError_result, hAsk]
      rfl
  | rotationPosition =>
      have hAsk : Rotation.ask slot = .ok s.position :=
        Slot.look_of_state (k := .rotation) _ hState
      have hHeld : SensorField.angle.held slot = s.position :=
        SensorField.held_of_state (f := .angle) hState
      simp only [call, SlotCall.run, SensorCall.run,
        Reply.mapError_result, hAsk, SensorReader.recall, hHeld]
      rfl
  | distance =>
      have hAsk : Distance.ask slot = .ok s.position :=
        Slot.look_of_state (k := .distance) _ hState
      have hHeld : SensorField.distance.held slot = s.position :=
        SensorField.held_of_state (f := .distance) hState
      simp only [call, SlotCall.run, SensorCall.run,
        Reply.mapError_result, hAsk, SensorReader.recall, hHeld]
      rfl
  | optical q =>
      have hAsk : q.ask slot = .ok (q.read s) :=
        Slot.look_of_state (k := .optical) _ hState
      rw [OpticalQuery.read_eq_recall hState] at hAsk
      simp only [call, SlotCall.run, SensorCall.run,
        Reply.mapError_result, hAsk]
      rfl
  | gps q =>
      have hAsk : q.ask slot = .ok (q.read s) :=
        Slot.look_of_state (k := .gps) _ hState
      rw [GpsQuery.read_eq_recall hState] at hAsk
      simp only [call, SlotCall.run, SensorCall.run,
        Reply.mapError_result, hAsk]
      rfl

end Readers

/- A raw call that reads gives the raw form of what is read. -/
theorem RawImuCall.encode_of_recall?
    {held : (f : SensorField) → f.Value}
    {c : RawImuCall}
    {value : Value}
    (hRecall : c.recall? held = some value) :
    ∃ q : ImuQuery,
      c.typed = .ask q ∧
        c.form.encode (q.value (q.recall held)) = value := by
  cases c with
  | headingGet =>
      exact ⟨.heading, rfl, Option.some.inj hRecall⟩
  | degreesGet =>
      exact ⟨.degrees, rfl, Option.some.inj hRecall⟩
  | attitudeGet buffer =>
      exact ⟨.attitude, rfl, Option.some.inj hRecall⟩
  | rawGyroGet buffer =>
      exact ⟨.rawGyro, rfl, Option.some.inj hRecall⟩
  | rawAccelGet buffer =>
      exact ⟨.rawAccel, rfl, Option.some.inj hRecall⟩
  | _ => cases hRecall

end DeviceBay
