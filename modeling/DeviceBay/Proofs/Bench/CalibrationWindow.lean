import DeviceBay.Proofs.Bench.Padding
import DeviceBay.Proofs.Bench.StatusReads

/-
  This file proves that while time goes forward a status read
  answers from the last reset alone: how often the status was
  read before makes no difference, nor does anything else that
  only polls, replugs or fails, as long as no publication looks
  at what a status read may have closed.

  Key definitions include:
    * `Bench.SameStatus`

  Main declarations:
    * `Bench.Tracks.sameStatus`
    * `Bench.History.statusReads_of_forward`
    * `Bench.Padded.sameStatus`
    * `Bench.status_reads_tell_the_window`
    * `Bench.polls_can_change_the_status`
-/

namespace DeviceBay

namespace Bench

variable {n m : Nat}

------------------------------------------------------------
-- The same answers
------------------------------------------------------------

/-
  Two benches on which every way to read the status of a slot
  answers the same, a failure of the guard included.
-/
structure SameStatus
    (long short : Bench n m)
    (b : Fin n)
    (i : SlotIndex) : Prop where
  status :
    (long.step (.slot b i (.imu .status))).2.answer =
      (short.step (.slot b i (.imu .status))).2.answer
  isCalibrating :
    (long.step (.slot b i (.imu .isCalibrating))).2.answer =
      (short.step (.slot b i (.imu .isCalibrating))).2.answer
  raw :
    ∀ s h, long.resolve s h = some (b, i) →
      (long.step (.device s h (.imu .statusGet))).2.answer.rawValue? =
        (short.step
          (.device s h (.imu .statusGet))).2.answer.rawValue?

/- While time goes forward, keeping track is enough. -/
theorem Tracks.sameStatus
    {long short : Bench n m}
    {seen : List Instant}
    (hTracks : Tracks seen long short)
    (hSeen : ∀ t ∈ seen, t ≤ long.clock.now)
    (b : Fin n)
    (i : SlotIndex) :
    SameStatus long short b i := by
  have hTyped :
      (long.step (.slot b i (.imu .status))).2.answer =
          (short.step (.slot b i (.imu .status))).2.answer ∧
        (long.step (.slot b i (.imu .isCalibrating))).2.answer =
          (short.step
            (.slot b i (.imu .isCalibrating))).2.answer := by
    have hTwins := hTracks.twins b i
    by_cases hType : (long.slot b i).connectedType = some .imu
    · have hOther : (short.slot b i).connectedType = some .imu := by
        rw [← hTwins.connectedType, hType]
      have hLong :=
        Coherent.statusReads (fun d j => (hTracks.twins d j).left)
          hType
      have hShort :=
        Coherent.statusReads (fun d j => (hTracks.twins d j).right)
          hOther
      have hSame := (hTracks.fades b i).calibrating_eq hSeen
      rw [hTracks.config, hTracks.clock, ← hSame] at hShort
      exact ⟨hLong.status.trans hShort.status.symm,
        hLong.isCalibrating.trans hShort.isCalibrating.symm⟩
    · rcases Slot.exists_refusal_of_ne hType with ⟨e, hRefused⟩
      have hOther : (short.slot b i).validate .imu = .error e := by
        rw [← hTwins.validate, hRefused]
      exact
        ⟨(answer_of_imu_refused .status hRefused).trans
            (answer_of_imu_refused .status hOther).symm,
          (answer_of_imu_refused .isCalibrating hRefused).trans
            (answer_of_imu_refused .isCalibrating hOther).symm⟩
  refine ⟨hTyped.1, hTyped.2, ?_⟩
  intro s h hHandle
  have hOther : short.resolve s h = some (b, i) := by
    cases h <;> simpa [resolve, hTracks.view] using hHandle
  rw [rawStatus_eq hHandle, rawStatus_eq hOther, hTyped.1]

------------------------------------------------------------
-- Runs in which time goes forward
------------------------------------------------------------

theorem le_of_forward
    {seen : List Instant}
    {now : Instant}
    (hForward : (seen ++ [now]).Pairwise (· ≤ ·)) :
    ∀ t ∈ seen, t ≤ now := by
  intro t hSeen
  exact (List.pairwise_append.mp hForward).2.2 t hSeen now
    (List.mem_singleton.mpr rfl)

/- Only what was written last counts, faded or not. -/
theorem History.statusReads_of_forward
    {past : List (Moment n m)}
    {bench : Bench n m}
    {b : Fin n}
    {i : SlotIndex}
    (hPast : History past bench)
    (hType : (bench.slot b i).connectedType = some .imu)
    (hForward :
      (readings past ++ [bench.clock.now]).Pairwise (· ≤ ·)) :
    bench.StatusReads b i
      (Imu.calibrating (bench.bay b).config bench.clock.now
        ((lastWrite? (Moment.resetWrite? b i)
          (since (Moment.installs b i) past)).getD none)) := by
  have hReads := Coherent.statusReads hPast.coherent hType
  have hSame := (hPast.fades b i).calibrating_eq
    (le_of_forward hForward)
  rw [hSame] at hReads
  exact hReads

/- Padding a run changes no status at its end. -/
theorem Padded.sameStatus
    {origin : Bench n m}
    {long short : List (Step n m)}
    (hPadded : Padded Alike origin origin long short)
    (hOrigin : origin.Coherent)
    (hStill : origin.clock.drift = id)
    (hForward :
      (readings (origin.moments long) ++
        [(origin.run long).1.clock.now]).Pairwise (· ≤ ·))
    (b : Fin n)
    (i : SlotIndex) :
    SameStatus (origin.run long).1 (origin.run short).1 b i := by
  have hTracks : Tracks [] origin origin :=
    .refl hOrigin hStill []
  have hRun := hPadded.tracks hTracks
  exact hRun.sameStatus (le_of_forward hForward) b i

/-
  While the readings of a run never decrease, a status read
  finds the sensor calibrating exactly if, since a device was
  last put into the slot, the start of a window was written
  last, and less than the calibration time has passed since
  that start. On a clock that stands still between its steps,
  padding the run with polls, replugs or failures changes no
  later status, if each publication that both runs make keeps
  the start of the window in both, or leaves the same in both.
-/
theorem status_reads_tell_the_window :
    (∀ (past : List (Moment n m)) (bench : Bench n m)
        (b : Fin n) (i : SlotIndex),
      History past bench →
      (bench.slot b i).connectedType = some .imu →
      (readings past ++ [bench.clock.now]).Pairwise (· ≤ ·) →
        ∃ calibrating,
          bench.StatusReads b i calibrating ∧
          (calibrating = true ↔
            ∃ start,
              lastWrite? (Moment.resetWrite? b i)
                  (since (Moment.installs b i) past) =
                some (some start) ∧
              (bench.clock.now.toNat - start.toNat) * 1000000 <
                (bench.bay b).config.calibrationTime.nanos)) ∧
    (∀ (time : Instant) (configs : Vector Config n)
        (views : Vector (Fin n) m) (long short : List (Step n m)),
      let origin := Bench.fresh (.manual time) configs views
      let bench := (origin.run long).1
      Padded Alike origin origin long short →
      (readings (origin.moments long) ++
          [bench.clock.now]).Pairwise (· ≤ ·) →
        ∀ b i, SameStatus bench (origin.run short).1 b i) := by
  constructor
  · intro past bench b i hPast hType hForward
    refine ⟨_, hPast.statusReads_of_forward hType hForward, ?_⟩
    rw [Imu.calibrating_iff]
    cases lastWrite? (Moment.resetWrite? b i)
        (since (Moment.installs b i) past) with
    | none => simp
    | some written => simp
  · intro time configs views long short origin bench hPadded
      hForward b i
    have hOrigin : origin.Coherent :=
      fresh_coherent (.manual time) configs views
    exact hPadded.sameStatus hOrigin rfl hForward b i

/- A reset of a sensor, and the time until just before the end. -/
def begun
    (b : Fin n) : List (Step n m) :=
  [.slot b 3 (.presence (.plugIn .imu)),
    .slot b 3 (.imu .reset),
    .clock (.advance (.ofMillis 2999))]

/- The last millisecond, and a publication past the window. -/
def unpolled
    (b : Fin n) : List (Step n m) :=
  begun b ++
    [.clock (.advance (.ofMillis 1)),
      .slot b 3
        (.publish .imu (fun s => { s with acceleration := {} })
          none)]

/-
  The same with a poll that closes the window, a replug and a
  reset of a sensor that is not there.
-/
def polled
    (b : Fin n) : List (Step n m) :=
  begun b ++
    [.clock (.advance (.ofMillis 1)),
      .slot b 3 (.imu .status),
      .slot b 3 (.presence .disconnect),
      .slot b 3 (.presence .connect),
      .slot b 4 (.imu .reset),
      .slot b 3
        (.publish .imu (fun s => { s with acceleration := {} })
          none)]

theorem status_reads_tell_the_window_polled :
    let origin : Bench 1 1 :=
      Bench.fresh (.manual ⟨7⟩) (Vector.replicate 1 {}) #v[0]
    let bench := (origin.run (begun 0)).1
    bench.StatusReads 0 ⟨3, by decide⟩ true ∧
    Padded Alike origin origin (polled 0) (unpolled 0) ∧
    SameStatus (origin.run (polled 0)).1 (origin.run (unpolled 0)).1 0
      ⟨3, by decide⟩ := by
  intro origin bench
  have hPast : History (origin.moments (begun 0)) bench :=
    (History.fresh _ _ _).run (begun 0)
  have hType :
      (bench.slot 0 ⟨3, by decide⟩).connectedType = some .imu := by
    decide +kernel
  have hReadings :
      (readings (origin.moments (begun 0)) ++
        [bench.clock.now]).Pairwise (· ≤ ·) := by
    decide +kernel
  have hWritten :
      lastWrite? (Moment.resetWrite? 0 ⟨3, by decide⟩)
          (since (Moment.installs 0 ⟨3, by decide⟩)
            (origin.moments (begun 0))) =
        some (some ⟨7⟩) := by
    decide +kernel
  have hOpen :
      (bench.clock.now.toNat -
            (Instant.mk 7).toNat) * 1000000 <
        (bench.bay 0).config.calibrationTime.nanos := by
    decide +kernel
  have hPadded : Padded Alike origin origin (polled 0) (unpolled 0) := by
    refine .keep (fun _ => trivial) ?_
    refine .keep (fun _ => trivial) ?_
    refine .keep trivial ?_
    refine .keep trivial ?_
    refine .poll (by decide +kernel) ?_
    refine .replug (j := ⟨3, by decide⟩) (by decide +kernel) ?_
    refine .fail ?_ (.keep ?_ .nil)
    · exact Or.inl
        ⟨_, answer_of_imu_refused (i := ⟨4, by decide⟩)
          (e := .disconnected 4) .reset (by decide +kernel)⟩
    · intro hIndex
      exact SlotCall.alike_publish (Or.inl (fun _ => rfl)) none _ _
  have hAfter :
      (readings (origin.moments (polled 0)) ++
        [(origin.run (polled 0)).1.clock.now]).Pairwise (· ≤ ·) := by
    decide +kernel
  refine ⟨?_, hPadded, ?_⟩
  · rcases status_reads_tell_the_window.1 _ _ 0 ⟨3, by decide⟩ hPast
      hType hReadings with ⟨calibrating, hReads, hWindow⟩
    have hTrue := hWindow.mpr ⟨⟨7⟩, hWritten, hOpen⟩
    rw [hTrue] at hReads
    exact hReads
  · exact status_reads_tell_the_window.2 ⟨7⟩ _ _ (polled 0)
      (unpolled 0) hPadded hAfter 0 ⟨3, by decide⟩

------------------------------------------------------------
-- Padding that does change a status
------------------------------------------------------------

/- Opens a window anew, if there is one. -/
def reopen
    (s : Imu) : Imu :=
  { s with resetAt := s.resetAt.map (fun _ => ⟨3007⟩) }

/- A calibration to its end. -/
def ended
    (b : Fin n) : List (Step n m) :=
  begun b ++ [.clock (.advance (.ofMillis 1))]

/- A clock that is set past the end of a calibration. -/
def overset
    (b : Fin n) : List (Step n m) :=
  [.slot b 3 (.presence (.plugIn .imu)),
    .slot b 3 (.imu .reset),
    .clock (.set ⟨5000⟩)]

/- One bench finds a sensor calibrating, and the other does not. -/
theorem not_sameStatus
    {long short : Bench n m}
    {b : Fin n}
    {i : SlotIndex}
    (hLong : long.StatusReads b i false)
    (hShort : short.StatusReads b i true) :
    ¬ SameStatus long short b i := by
  intro hSame
  have hAnswers := hSame.isCalibrating
  rw [hLong.isCalibrating, hShort.isCalibrating] at hAnswers
  cases hAnswers

/-
  A status read does change a later status if a publication
  opens the window anew only where it finds one, or if the read
  is all that saw a time that the clock was set back from.
-/
theorem polls_can_change_the_status :
    let origin : Bench 1 1 :=
      Bench.fresh (.manual ⟨7⟩) (Vector.replicate 1 {}) #v[0]
    let poll : Step 1 1 := .slot 0 3 (.imu .status)
    let published : Step 1 1 := .slot 0 3 (.publish .imu reopen none)
    let back : Step 1 1 := .clock (.set ⟨1000⟩)
    let looked := origin.run (ended 0 ++ [poll, published])
    let unlooked := origin.run (ended 0 ++ [published])
    let ahead := origin.run (overset 0 ++ [poll, back])
    let steady := origin.run (overset 0 ++ [back])
    (Padded (fun _ _ _ => True) origin origin
        (ended 0 ++ [poll, published]) (ended 0 ++ [published]) ∧
      (readings (origin.moments (ended 0 ++ [poll, published])) ++
        [looked.1.clock.now]).Pairwise (· ≤ ·) ∧
      (readings (origin.moments (ended 0 ++ [published])) ++
        [unlooked.1.clock.now]).Pairwise (· ≤ ·) ∧
      ¬ SameStatus looked.1 unlooked.1 0 ⟨3, by decide⟩) ∧
    Padded Alike origin origin
        (overset 0 ++ [poll, back]) (overset 0 ++ [back]) ∧
      (readings (origin.moments (overset 0 ++ [back])) ++
        [steady.1.clock.now]).Pairwise (· ≤ ·) ∧
      ¬ SameStatus ahead.1 steady.1 0 ⟨3, by decide⟩ := by
  intro origin poll published back looked unlooked ahead steady
  have hRead {steps : List (Step 1 1)} {calibrating : Bool}
      (hType :
        ((origin.run steps).1.slot 0 ⟨3, by decide⟩).connectedType =
          some .imu)
      (hWindow :
        Imu.calibrating ((origin.run steps).1.bay 0).config
            (origin.run steps).1.clock.now
            ((origin.run steps).1.slot 0
              ⟨3, by decide⟩).resetAt? =
          calibrating) :
      (origin.run steps).1.StatusReads 0 ⟨3, by decide⟩
        calibrating := by
    have hReach : (origin.run steps).1.Reachable :=
      (Reachable.fresh _ _ _).run steps
    have hReads := hReach.coherent.statusReads hType
    rw [hWindow] at hReads
    exact hReads
  refine ⟨⟨?_, ?_, ?_, ?_⟩, ?_, ?_, ?_⟩
  · refine .keep trivial (.keep trivial ?_)
    refine .keep trivial (.keep trivial ?_)
    refine .poll (by decide +kernel) ?_
    exact .keep trivial .nil
  · decide +kernel
  · decide +kernel
  · apply not_sameStatus
    · exact hRead (by decide +kernel) (by decide +kernel)
    · exact hRead (by decide +kernel) (by decide +kernel)
  · refine .keep (fun _ => trivial) (.keep (fun _ => trivial) ?_)
    refine .keep trivial ?_
    refine .poll (by decide +kernel) ?_
    exact .keep trivial .nil
  · decide +kernel
  · apply not_sameStatus
    · exact hRead (by decide +kernel) (by decide +kernel)
    · exact hRead (by decide +kernel) (by decide +kernel)

end Bench

end DeviceBay
