import DeviceBay.Proofs.Bench.ResetMemory
import DeviceBay.Proofs.Slot.Twins

/-
  This file compares a run with one that does the same and more
  besides: status reads, devices that are pulled out and put
  back at once, and calls that fail. It proves that the longer
  run keeps track of the shorter one, up to calibration windows
  that its status reads have closed.

  Key definitions include:
    * `Bench.readsStatus`
    * `Bench.Alike`
    * `Bench.Padded`
    * `Bench.Tracks`

  Main declarations:
    * `Bench.Tracks.step`
    * `Bench.Padded.tracks`
-/

namespace DeviceBay

theorem SlotCall.advance?_of_readsStatus
    (slot : Slot)
    {c : SlotCall}
    (hReads : c.readsStatus = true) :
    c.advance? slot = none := by
  rcases cases_of_readsStatus hReads with rfl | rfl
  · rfl
  · rfl

namespace Bench

variable {n m : Nat}

/- Whether a step reads the status of an inertial sensor. -/
def readsStatus
    (bench : Bench n m)
    (s : Step n m) : Bool :=
  (bench.target? s).any (fun target => target.2.readsStatus)

/- A step whose publication, if it is one, is alike on two benches. -/
def Alike
    (a b : Bench n m) : Step n m → Prop
  | .slot d j c =>
      ∀ h : j < slotCount,
        c.Alike (a.slot d ⟨j, h⟩) (b.slot d ⟨j, h⟩)
  | _ => True

/-
  The long run, from the first bench, takes all steps of the
  short one, from the second bench, in order, and between them
  steps that are no more than polling, replugging what is
  there, or failing. What both runs take is as `Common` says.
-/
inductive Padded
    (Common : Bench n m → Bench n m → Step n m → Prop) :
    Bench n m → Bench n m →
      List (Step n m) → List (Step n m) → Prop
  | nil {a b : Bench n m} :
      Padded Common a b [] []
  | keep {a b : Bench n m} {s : Step n m}
      {long short : List (Step n m)}
      (hCommon : Common a b s)
      (hRest :
        Padded Common (a.step s).1 (b.step s).1 long short) :
      Padded Common a b (s :: long) (s :: short)
  | poll {a b : Bench n m} {s : Step n m}
      {long short : List (Step n m)}
      (hReads : a.readsStatus s = true)
      (hRest : Padded Common (a.step s).1 b long short) :
      Padded Common a b (s :: long) short
  | replug {a b : Bench n m} {d : Fin n} {j : SlotIndex}
      {long short : List (Step n m)}
      (hPresent : (a.slot d j).present = true)
      (hRest :
        Padded Common
          (a.run
            [.slot d j (.presence .disconnect),
              .slot d j (.presence .connect)]).1
          b long short) :
      Padded Common a b
        (.slot d j (.presence .disconnect) ::
          .slot d j (.presence .connect) :: long)
        short
  | fail {a b : Bench n m} {s : Step n m}
      {long short : List (Step n m)}
      (hFails : (a.step s).2.Fails)
      (hRest : Padded Common (a.step s).1 b long short) :
      Padded Common a b (s :: long) short

------------------------------------------------------------
-- Keeping track
------------------------------------------------------------

/-
  The bench of a long run beside that of a short one, on clocks
  that stand still: the same in all but what states, cells and
  copies hold, and with the same calibration windows but for
  those that were closed at one of the readings seen so far.
-/
structure Tracks
    (seen : List Instant)
    (long short : Bench n m) : Prop where
  still : long.clock.drift = id
  clock : short.clock = long.clock
  config : ∀ d, (short.bay d).config = (long.bay d).config
  view : ∀ t, (short.surface t).bay = (long.surface t).bay
  twins : ∀ d j, Slot.Twins j (long.slot d j) (short.slot d j)
  fades :
    ∀ d j,
      Imu.Fades (long.bay d).config seen
        (short.slot d j).resetAt? (long.slot d j).resetAt?

namespace Tracks

variable {seen later : List Instant}
variable {a b c : Bench n m}

theorem append
    (more : List Instant)
    (hTracks : Tracks seen a b) :
    Tracks (seen ++ more) a b :=
  { hTracks with
    fades := fun d j => (hTracks.fades d j).append more }

theorem trans
    (hTracks : Tracks seen b c)
    (hMore : Tracks later a b) :
    Tracks (seen ++ later) a c where
  still := hMore.still
  clock := hTracks.clock.trans hMore.clock
  config d := (hTracks.config d).trans (hMore.config d)
  view t := (hTracks.view t).trans (hMore.view t)
  twins d j := (hMore.twins d j).trans (hTracks.twins d j)
  fades d j := by
    have hFades := hTracks.fades d j
    rw [hMore.config] at hFades
    exact hFades.trans (hMore.fades d j)

/- A bench on which all that matters is as before. -/
theorem of_same
    {bench after : Bench n m}
    (hBench : bench.Coherent)
    (hStill : bench.clock.drift = id)
    (hClock : after.clock = bench.clock)
    (hConfig : ∀ d, (after.bay d).config = (bench.bay d).config)
    (hView : ∀ t, (after.surface t).bay = (bench.surface t).bay)
    (hSlot : ∀ d j, after.slot d j = bench.slot d j)
    (seen : List Instant) :
    Tracks seen after bench where
  still := by rw [hClock, hStill]
  clock := hClock.symm
  config d := (hConfig d).symm
  view t := (hView t).symm
  twins d j := by
    rw [hSlot]
    exact .refl (hBench d j)
  fades d j := by
    rw [hSlot]
    exact .refl _ _ _

theorem refl
    {bench : Bench n m}
    (hBench : bench.Coherent)
    (hStill : bench.clock.drift = id)
    (seen : List Instant) :
    Tracks seen bench bench :=
  of_same hBench hStill rfl (fun _ => rfl) (fun _ => rfl)
    (fun _ _ => rfl) seen

end Tracks

------------------------------------------------------------
-- Clocks that stand still
------------------------------------------------------------

/- A clock that stands still is moved by few operations. -/
theorem step_clock_of_target
    {bench : Bench n m}
    {s : Step n m}
    {b : Fin n}
    {i : SlotIndex}
    {c : SlotCall}
    (hStill : bench.clock.drift = id)
    (hTarget : bench.target? s = some ((b, i), c)) :
    (bench.step s).1.clock =
      (c.advance? (bench.slot b i)).elim bench.clock
        bench.clock.advance := by
  rw [(runs_of_target? hTarget).clock]
  exact c.run_clock hStill _ _

------------------------------------------------------------
-- Padding steps
------------------------------------------------------------

section Padding

variable {bench : Bench n m} {s : Step n m}
variable (hBench : bench.Coherent)
variable (hStill : bench.clock.drift = id)

include hBench hStill

/- A failing step changes nothing that matters. -/
theorem tracks_of_fails
    (hFails : (bench.step s).2.Fails)
    (seen : List Instant) :
    Tracks seen (bench.step s).1 bench := by
  cases hTarget : bench.target? s with
  | none =>
      have hClock := step_clock_of_target? hTarget
      rw [idleClock_of_fails hFails] at hClock
      exact .of_same hBench hStill hClock (bench.step_config s)
        (bench.step_view s) (idles_of_target? hTarget).slot seen
  | some target =>
      rcases target with ⟨⟨b, i⟩, c⟩
      have hRuns := runs_of_target? hTarget
      rcases hRuns.failed.mp hFails with ⟨e, hError⟩
      have hFailed := SlotCall.run_of_failed (hBench b i) hError
      have hClock := step_clock_of_target hStill hTarget
      rw [hFailed.2] at hClock
      refine .of_same hBench hStill hClock (bench.step_config s)
        (bench.step_view s) ?_ seen
      intro d j
      by_cases hSame : (b, i) = (d, j)
      · cases hSame
        exact hRuns.slot.trans hFailed.1
      · exact hRuns.others d j hSame

/- A status read may close a window, at its own first reading. -/
theorem tracks_of_readsStatus
    (hReads : bench.readsStatus s = true) :
    Tracks (bench.step s).2.readings (bench.step s).1 bench := by
  rcases (Option.any_eq_true _ _).mp hReads with
    ⟨⟨⟨b, i⟩, c⟩, hTarget, hStatus⟩
  have hClock := step_clock_of_target hStill hTarget
  have hAdvance :=
    SlotCall.advance?_of_readsStatus (bench.slot b i) hStatus
  rw [hAdvance] at hClock
  have hCall : bench.callOn? b i s = some c :=
    (callOn?_eq_some_iff _ _ _ _ _).mpr hTarget
  have hSlot := slot_of_callOn? hCall
  have hOthers := (runs_of_target? hTarget).others
  constructor
  case still => exact (bench.step_drift s).trans hStill
  case clock => exact hClock.symm
  case config => exact fun d => (bench.step_config s d).symm
  case view => exact fun t => (bench.step_view s t).symm
  case twins =>
    intro d j
    by_cases hSame : (b, i) = (d, j)
    · cases hSame
      rw [hSlot]
      apply (hBench b i).twins_apply
      apply SlotCall.effect_stays
      rintro ⟨p, rfl⟩
      cases hStatus
    · rw [hOthers d j hSame]
      exact .refl (hBench d j)
  case fades =>
    intro d j
    by_cases hSame : (b, i) = (d, j)
    · cases hSame
      have hNow := now_mem_readings hCall hStatus
      rw [hSlot, step_config]
      exact SlotCall.fades_status (bench.env b) bench.clock
        (bench.slot b i) hStatus hNow
    · rw [hOthers d j hSame]
      exact .refl _ _ _

/- What is pulled out and put back is as it was. -/
theorem tracks_of_replug
    {b : Fin n}
    {i : SlotIndex}
    (hPresent : (bench.slot b i).present = true)
    (seen : List Instant) :
    Tracks seen
      (bench.run
        [.slot b i (.presence .disconnect),
          .slot b i (.presence .connect)]).1
      bench := by
  let out : Step n m := .slot b i (.presence .disconnect)
  let back : Step n m := .slot b i (.presence .connect)
  have hOut := bench.stepSlot_runs b i (.presence .disconnect)
  have hIn :=
    (bench.step out).1.stepSlot_runs b i (.presence .connect)
  have hBack :
      (bench.slot b i).disconnect.connect = bench.slot b i := by
    rw [Slot.connect, Slot.disconnect, ← hPresent]
  refine .of_same hBench hStill ?_ ?_ ?_ ?_ seen
  · exact hIn.clock.trans hOut.clock
  · intro d
    have hConfig := (bench.step out).1.step_config back d
    exact hConfig.trans (bench.step_config out d)
  · intro t
    have hView := (bench.step out).1.step_view back t
    exact hView.trans (bench.step_view out t)
  · intro d j
    by_cases hSame : (b, i) = (d, j)
    · cases hSame
      have hAfter := hIn.slot
      rw [hOut.slot] at hAfter
      exact hAfter.trans hBack
    · exact (hIn.others d j hSame).trans (hOut.others d j hSame)

end Padding

------------------------------------------------------------
-- Common steps
------------------------------------------------------------

theorem Alike.call
    {a b : Bench n m}
    {s : Step n m}
    {d : Fin n}
    {j : SlotIndex}
    {c : SlotCall}
    (hAlike : Alike a b s)
    (hTarget : a.target? s = some ((d, j), c)) :
    c.Alike (a.slot d j) (b.slot d j) := by
  cases s
  case slot e k call =>
    simp only [target?] at hTarget
    split at hTarget
    · rename_i hIndex
      cases hTarget
      exact hAlike hIndex
    · cases hTarget
  case surface t call =>
    cases call
    case install k code =>
      simp only [target?] at hTarget
      split at hTarget
      · cases hTarget
        exact trivial
      · cases hTarget
    all_goals cases hTarget
  case device t h call =>
    simp only [target?] at hTarget
    split at hTarget
    · rename_i made hHandle hCall
      cases hTarget
      cases call with
      | timestamp => cases hCall
      | radio raw => cases hCall
      | imu raw =>
          cases hCall
          exact trivial
      | motor raw =>
          simp only [DeviceCall.driverCall?] at hCall
          split at hCall
          · cases hCall
          · cases hCall
            exact trivial
    · cases hTarget
  all_goals cases hTarget

namespace Tracks

variable {seen : List Instant} {long short : Bench n m}

/- Both benches have the same slot as the target of a step. -/
theorem target?_eq
    (hTracks : Tracks seen long short)
    (s : Step n m) :
    short.target? s = long.target? s := by
  cases s with
  | surface t c => cases c <;> simp only [target?, hTracks.view]
  | device t h c =>
      cases h <;> simp only [target?, resolve, hTracks.view]
  | clock c => rfl
  | owner c => rfl
  | bay b c => rfl
  | slot b i c => rfl
  | copy b i c => rfl
  | relation b i c => rfl

theorem callOn?_eq
    (hTracks : Tracks seen long short)
    (b : Fin n)
    (i : SlotIndex)
    (s : Step n m) :
    short.callOn? b i s = long.callOn? b i s := by
  rw [callOn?, callOn?, hTracks.target?_eq]

theorem step_clock
    (hTracks : Tracks seen long short)
    (s : Step n m) :
    (short.step s).1.clock = (long.step s).1.clock := by
  have hStill := hTracks.still
  rw [← hTracks.clock] at hStill
  have hOther := hTracks.target?_eq s
  cases hTarget : long.target? s with
  | none =>
      rw [hTarget] at hOther
      rw [step_clock_of_target? hTarget,
        step_clock_of_target? hOther, hTracks.clock]
  | some target =>
      rcases target with ⟨⟨b, i⟩, c⟩
      rw [hTarget] at hOther
      rw [step_clock_of_target hTracks.still hTarget,
        step_clock_of_target hStill hOther, hTracks.clock,
        (hTracks.twins b i).advance?]

/- The same step on both benches keeps track. -/
theorem step
    (hTracks : Tracks seen long short)
    {s : Step n m}
    (hAlike : Alike long short s) :
    Tracks seen (long.step s).1 (short.step s).1 := by
  constructor
  case still => exact (step_drift _ s).trans hTracks.still
  case clock => exact hTracks.step_clock s
  case config =>
    intro d
    rw [step_config, step_config, hTracks.config]
  case view =>
    intro t
    rw [step_view, step_view, hTracks.view]
  case twins =>
    intro d j
    have hOther := hTracks.callOn?_eq d j s
    cases hCall : long.callOn? d j s with
    | none =>
        rw [hCall] at hOther
        rw [slot_of_callOn?_eq_none hCall,
          slot_of_callOn?_eq_none hOther]
        exact hTracks.twins d j
    | some c =>
        rw [hCall] at hOther
        rw [slot_of_callOn? hCall, slot_of_callOn? hOther,
          hTracks.clock]
        exact (hTracks.twins d j).apply _ _ _ c
  case fades =>
    intro d j
    have hOther := hTracks.callOn?_eq d j s
    rw [step_config]
    cases hCall : long.callOn? d j s with
    | none =>
        rw [hCall] at hOther
        rw [slot_of_callOn?_eq_none hCall,
          slot_of_callOn?_eq_none hOther]
        exact hTracks.fades d j
    | some c =>
        have hTarget := (callOn?_eq_some_iff _ _ _ _ _).mp hCall
        rw [hCall] at hOther
        rw [slot_of_callOn? hCall, slot_of_callOn? hOther,
          hTracks.clock]
        exact (hTracks.twins d j).fades long.clock
          (hTracks.config d) (hAlike.call hTarget)
          (hTracks.fades d j)

end Tracks

------------------------------------------------------------
-- Runs
------------------------------------------------------------

/-
  A padded run keeps track of the run that it pads, if what
  both publish is alike. The readings that are seen are all
  that it takes.
-/
theorem Padded.tracks
    {bench other : Bench n m}
    {long short : List (Step n m)}
    {seen : List Instant}
    (hPadded : Padded Alike bench other long short)
    (hTracks : Tracks seen bench other) :
    Tracks (seen ++ readings (bench.moments long))
      (bench.run long).1 (other.run short).1 := by
  have hCoherent {seen : List Instant} {a b : Bench n m}
      (hTracks : Tracks seen a b) :
      a.Coherent :=
    fun d j => (hTracks.twins d j).left
  induction hPadded generalizing seen with
  | nil => exact hTracks.append _
  | @keep bench other s long short hAlike hRest ih =>
      have hStep :=
        (hTracks.step hAlike).append (bench.step s).2.readings
      have hRun := ih hStep
      rw [List.append_assoc] at hRun
      exact hRun
  | @poll bench other s long short hReads hRest ih =>
      have hStep := hTracks.trans
        (tracks_of_readsStatus (hCoherent hTracks) hTracks.still
          hReads)
      have hRun := ih hStep
      rw [List.append_assoc] at hRun
      exact hRun
  | @replug bench other b i long short hPresent hRest ih =>
      let out := bench.step (.slot b i (.presence .disconnect))
      let back := out.1.step (.slot b i (.presence .connect))
      have hStep := hTracks.trans
        (tracks_of_replug (hCoherent hTracks) hTracks.still
          hPresent (out.2.readings ++ back.2.readings))
      have hRun := ih hStep
      rw [List.append_assoc, List.append_assoc] at hRun
      exact hRun
  | @fail bench other s long short hFails hRest ih =>
      have hStep := hTracks.trans
        (tracks_of_fails (hCoherent hTracks) hTracks.still hFails
          (bench.step s).2.readings)
      have hRun := ih hStep
      rw [List.append_assoc] at hRun
      exact hRun

end Bench

end DeviceBay
