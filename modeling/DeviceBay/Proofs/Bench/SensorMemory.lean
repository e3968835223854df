import DeviceBay.Proofs.Bench.Cells
import DeviceBay.Proofs.Bench.RawRefinement
import DeviceBay.Proofs.Slot.SensorFields

/-
  This file proves that all readers of a sensor are views of
  one record of its fields, each as it was written last, over
  any run. The raw calls that fill a buffer deliver the same
  components, and no call on an inertial sensor changes any.

  Key definitions include:
    * `Moment.writesField?`
    * `Bench.lastTold`
    * `Bench.SensorsAnswer`

  Main declarations:
    * `Bench.sensorsAnswer_held`
    * `Bench.SensorsAnswer.unique`
    * `Bench.History.held_eq_lastTold`
    * `Bench.lastTold_concat`
    * `Bench.sensors_answer_their_last_writes`
-/

namespace DeviceBay

/- What a moment writes into a field of the sensor in a slot. -/
def Moment.writesField?
    {n m : Nat}
    (b : Fin n)
    (i : SlotIndex)
    (f : SensorField)
    (x : Moment n m) : Option f.Value :=
  x.writesCell? b i f.cell

namespace Bench

variable {n m : Nat} {b : Fin n} {i : SlotIndex}

/- What a field was last told since a device was last put in. -/
def lastTold
    (b : Fin n)
    (i : SlotIndex)
    (past : List (Moment n m))
    (f : SensorField) : f.Value :=
  (lastWrite? (Moment.writesField? b i f)
    (since (Moment.installs b i) past)).getD f.zero

/-
  Every reader of the sensor in a slot answers what one record
  of the fields says, and the raw calls on an inertial sensor
  deliver it, through whatever handle of the slot.
-/
structure SensorsAnswer
    (bench : Bench n m)
    (b : Fin n)
    (i : SlotIndex)
    (held : (f : SensorField) → f.Value) : Prop where
  driver (r : SensorReader)
      (hType :
        (bench.slot b i).connectedType = some r.kind.deviceType) :
      (bench.step (.slot b i r.call)).2.answer =
        .value (r.recall held)
  raw (s : Fin m) (h : Handle n) (c : RawImuCall) (value : Value)
      (hHandle : bench.resolve s h = some (b, i))
      (hType : (bench.slot b i).connectedType = some .imu)
      (hRecall : c.recall? held = some value) :
      (bench.step (.device s h (.imu c))).2.answer.rawValue? =
        some value

------------------------------------------------------------
-- Answers from the fields
------------------------------------------------------------

theorem answer_of_kind
    {bench : Bench n m}
    (hBench : bench.Coherent)
    (r : SensorReader)
    (hType :
      (bench.slot b i).connectedType = some r.kind.deviceType) :
    (bench.step (.slot b i r.call)).2.answer =
      .value (r.recall (fun f => f.held (bench.slot b i))) := by
  rcases (hBench b i).stateOf hType with ⟨s, hState⟩
  rw [stepSlot_eq rfl]
  dsimp only
  rw [r.result_of_state (bench.env b) bench.clock hState]
  rfl

theorem sensorsAnswer_held
    {bench : Bench n m}
    (hBench : bench.Coherent) :
    bench.SensorsAnswer b i
      (fun f => f.held (bench.slot b i)) := by
  constructor
  · intro r hType
    exact answer_of_kind hBench r hType
  · intro s h c value hHandle hType hRecall
    rcases c.encode_of_recall? hRecall with ⟨q, hTyped, hValue⟩
    have hAnswer := answer_of_kind hBench (.imu q) hType
    have hRefines :
        bench.Refines (.device s h (.imu c))
          (.slot b i (.imu c.typed)) c.form :=
      refines_of_settle hHandle (c.run_eq _ _ _ _) rfl
    rw [hRefines.value, hTyped]
    exact congrArg some
      ((congrArg c.form.ofAnswer hAnswer).trans hValue)

/- The answers fit one record of the fields, and no other. -/
theorem SensorsAnswer.unique
    {bench : Bench n m}
    {one other : (f : SensorField) → f.Value}
    (hOne : bench.SensorsAnswer b i one)
    (hOther : bench.SensorsAnswer b i other)
    (f : SensorField)
    (hType :
      (bench.slot b i).connectedType = some f.kind.deviceType) :
    one f = other f := by
  apply SensorReader.eq_of_recall f
  intro r hKind
  rw [← hKind] at hType
  have hAnswers :=
    (hOne.driver r hType).symm.trans (hOther.driver r hType)
  exact Answer.value.inj hAnswers

------------------------------------------------------------
-- Fields over a run
------------------------------------------------------------

section Histories

variable {past : List (Moment n m)} {bench : Bench n m}

/- A field holds its last write since the last installation. -/
theorem History.held_eq_lastTold
    (hPast : History past bench)
    (b : Fin n)
    (i : SlotIndex) :
    (fun f : SensorField => f.held (bench.slot b i)) =
      lastTold b i past := by
  funext f
  exact hPast.cell_eq_last_write b i f.cell

theorem History.sensorsAnswer
    (hPast : History past bench)
    (b : Fin n)
    (i : SlotIndex) :
    bench.SensorsAnswer b i (lastTold b i past) := by
  rw [← hPast.held_eq_lastTold]
  exact sensorsAnswer_held hPast.coherent

/- A moment changes in the record what it writes. -/
theorem lastTold_concat
    {x : Moment n m}
    (past : List (Moment n m))
    (hKeeps : x.installs b i = false) :
    lastTold b i (past ++ [x]) =
      fun f => (x.writesField? b i f).getD (lastTold b i past f) := by
  funext f
  rw [lastTold, since_concat, hKeeps, if_neg Bool.false_ne_true,
    lastWrite?_concat]
  cases x.writesField? b i f <;> rfl

/- No call on an inertial sensor writes any field. -/
theorem writesField?_of_imu
    (bench : Bench n m)
    (c : ImuCall)
    (f : SensorField) :
    Moment.writesField? b i f ⟨bench, .slot b i (.imu c)⟩ =
      none := by
  rw [Moment.writesField?, Moment.writesCell?, Moment.callOn?,
    callOn?_slot]
  rfl

/-
  After any run, for every slot: each reader of a sensor in
  reach answers, bit for bit, from what each field was told
  last since a device was last put into the slot, or from zero,
  and so do the raw calls. A further step that puts nothing in
  changes what the readers answer in the fields that it writes,
  and in no other. A call on an inertial sensor, be it a reset,
  a status read or a mode, writes none.
-/
theorem sensors_answer_their_last_writes
    (hPast : History past bench)
    (b : Fin n)
    (i : SlotIndex) :
    bench.SensorsAnswer b i (lastTold b i past) ∧
    (∀ s : Step n m,
      (Moment.mk bench s).installs b i = false →
        (bench.step s).1.SensorsAnswer b i
          (fun f =>
            ((Moment.mk bench s).writesField? b i f).getD
              (lastTold b i past f))) ∧
    ∀ c : ImuCall,
      (bench.step (.slot b i (.imu c))).1.SensorsAnswer b i
        (lastTold b i past) := by
  have hNext (s : Step n m)
      (hKeeps : (Moment.mk bench s).installs b i = false) :
      (bench.step s).1.SensorsAnswer b i
        (fun f =>
          ((Moment.mk bench s).writesField? b i f).getD
            (lastTold b i past f)) := by
    rw [← lastTold_concat past hKeeps]
    exact (hPast.step s).sensorsAnswer b i
  refine ⟨hPast.sensorsAnswer b i, hNext, ?_⟩
  intro c
  have hCall :
      (Moment.mk bench (.slot b i (.imu c))).callOn? b i =
        some (.imu c) :=
    bench.callOn?_slot b i (.imu c)
  have hAfter :=
    hNext (.slot b i (.imu c)) (Moment.installs_of_callOn? hCall)
  simp only [writesField?_of_imu] at hAfter
  exact hAfter

end Histories

/-
  An inertial sensor that is reset between two publications,
  with a third one while it is out of reach, and a position
  sensor that is told another offset.
-/
def surveyed
    (b : Fin n) : List (Step n m) :=
  [.slot b 3 (.presence (.plugIn .imu)),
    .slot b 3
      (.publish .imu
        (fun s : Imu =>
          { s with rotation := ⟨⟨1⟩, ⟨2⟩, ⟨3⟩, ⟨4⟩⟩ })
        none),
    .slot b 3 (.imu .reset),
    .slot b 3 (.presence .disconnect),
    .slot b 3
      (.publish .imu (fun s : Imu => { s with rotation := {} })
        none),
    .slot b 3 (.presence .connect),
    .slot b 3
      (.publish .imu
        (fun s : Imu =>
          { s with rotation := { s.rotation with z := ⟨5⟩ } })
        none),
    .slot b 4 (.presence (.plugIn .gps)),
    .slot b 4
      (.publish .gps
        (fun s : Gps =>
          { s with position := ⟨⟨6⟩, ⟨7⟩, ⟨8⟩, ⟨9⟩⟩ })
        none),
    .slot b 4 (.sensor (.setGpsOffset ⟨⟨10⟩, ⟨11⟩⟩))]

theorem sensors_answer_their_last_writes_surveyed :
    let start : Bench 1 1 :=
      fresh (.manual ⟨7⟩) (Vector.replicate 1 {}) #v[0]
    let bench := (start.run (surveyed 0)).1
    (bench.step (.slot 0 3 (.imu (.ask .heading)))).2.answer =
      .value (.float ⟨5⟩) ∧
    (bench.step
        (.device 0 (.own 3)
          (.imu (.attitudeGet {})))).2.answer.rawValue? =
      some (.floats [⟨1⟩, ⟨2⟩, ⟨5⟩]) ∧
    (bench.step (.slot 0 4 (.sensor (.gps .offset)))).2.answer =
      .value (.floats [⟨10⟩, ⟨11⟩]) ∧
    (bench.step
        (.slot 0 4 (.sensor (.gps .rawPosition)))).2.answer =
      .value (.floats [⟨6⟩, ⟨7⟩, ⟨8⟩, ⟨9⟩]) := by
  intro start bench
  have hPast : History (start.moments (surveyed 0)) bench :=
    (History.fresh _ _ _).run (surveyed 0)
  have hImu :=
    (sensors_answer_their_last_writes hPast 0 ⟨3, by decide⟩).1
  have hGps :=
    (sensors_answer_their_last_writes hPast 0 ⟨4, by decide⟩).1
  have hImuType :
      (bench.slot 0 ⟨3, by decide⟩).connectedType = some .imu := by
    decide +kernel
  have hGpsType :
      (bench.slot 0 ⟨4, by decide⟩).connectedType = some .gps := by
    decide +kernel
  have hHandle :
      bench.resolve 0 (.own 3) = some (0, ⟨3, by decide⟩) := by
    decide +kernel
  have hRotation :
      ∀ a : Axis,
        lastTold 0 ⟨3, by decide⟩ (start.moments (surveyed 0))
          (.rotation a) =
            (⟨⟨1⟩, ⟨2⟩, ⟨5⟩, ⟨4⟩⟩ : Vector4).along a := by
    intro a
    cases a <;> decide +kernel
  have hPosition :
      ∀ a : Axis,
        lastTold 0 ⟨4, by decide⟩ (start.moments (surveyed 0))
          (.position a) =
            (⟨⟨6⟩, ⟨7⟩, ⟨8⟩, ⟨9⟩⟩ : Vector4).along a := by
    intro a
    cases a <;> decide +kernel
  have hOffsetX :
      lastTold 0 ⟨4, by decide⟩ (start.moments (surveyed 0))
        .offsetX = (⟨10⟩ : Binary64) := by
    decide +kernel
  have hOffsetY :
      lastTold 0 ⟨4, by decide⟩ (start.moments (surveyed 0))
        .offsetY = (⟨11⟩ : Binary64) := by
    decide +kernel
  refine ⟨?_, ?_, ?_, ?_⟩
  · have hAnswer := hImu.driver (.imu .heading) hImuType
    simp only [SensorReader.recall, ImuQuery.recall, hRotation]
      at hAnswer
    exact hAnswer
  · have hAnswer :=
      hImu.raw 0 (.own 3) (.attitudeGet {}) _ hHandle hImuType rfl
    simp only [hRotation] at hAnswer
    exact hAnswer
  · have hAnswer := hGps.driver (.gps .offset) hGpsType
    simp only [SensorReader.recall, GpsQuery.recall, hOffsetX,
      hOffsetY] at hAnswer
    exact hAnswer
  · have hAnswer := hGps.driver (.gps .rawPosition) hGpsType
    simp only [SensorReader.recall, GpsQuery.recall, hPosition]
      at hAnswer
    exact hAnswer

end Bench

end DeviceBay
