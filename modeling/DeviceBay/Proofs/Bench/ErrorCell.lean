import DeviceBay.Proofs.Bench.Refusal

/-
  This file proves the law of the error cells: after any run,
  the cell of a surface holds the code that was written there
  last, by a direct set, by a take, or by a failing call made
  through that same surface.

  Key definitions include:
    * `Bench.write?`
    * `Bench.writes`
    * `Event.isFailureTrace`

  Main declarations:
    * `Bench.step_errno`
    * `Bench.run_errno`
    * `Bench.errno_eq_last_write`
-/

namespace DeviceBay

------------------------------------------------------------
-- Traces of failures
------------------------------------------------------------

namespace Event

/- Whether an event is one of the two traces of a failed call. -/
def isFailureTrace
    (e : Event) : Bool :=
  e.level == .trace &&
    (e.message == "device guard failed" ||
      e.message == "rejected raw value")

/- The messages of all other events are different ones. -/
theorem isFailureTrace_eq
    (e : Event) :
    e.isFailureTrace = e.isRefusal := by
  cases e
  case ignored slot call =>
    cases call <;> rfl
  case radio slot activity =>
    cases activity <;> rfl
  all_goals rfl

theorem filter_isFailureTrace
    (events : List Event) :
    events.filter isFailureTrace = events.filter isRefusal := by
  have hEq : isFailureTrace = isRefusal :=
    funext isFailureTrace_eq
  rw [hEq]

end Event

namespace Bench

variable {n m : Nat}

------------------------------------------------------------
-- Writes into cells
------------------------------------------------------------

/- The surface whose error cell a step writes, and the code. -/
def write?
    (bench : Bench n m) :
    Step n m → Option (Fin m × Int32)
  | .surface s (.errno (.set code)) => some (s, code)
  | .surface s (.errno .take) => some (s, 0)
  | step =>
      (bench.failure? step).map (fun f => (f.1, f.2.errno.code))

/- The code that a step writes into the cell of one surface. -/
def written?
    (bench : Bench n m)
    (s : Fin m)
    (step : Step n m) : Option Int32 :=
  match bench.write? step with
  | none => none
  | some (t, code) => if t = s then some code else none

/- The codes that a run writes into the cell of a surface. -/
def writes
    (bench : Bench n m)
    (s : Fin m) : List (Step n m) → List Int32
  | [] => []
  | step :: rest =>
      (bench.written? s step).toList ++
        (bench.step step).1.writes s rest

------------------------------------------------------------
-- Cells after a step
------------------------------------------------------------

theorem surface_setErrno
    (bench : Bench n m)
    (s t : Fin m)
    (errno : Errno) :
    ((bench.setErrno t errno).surface s).errno =
      if t = s then errno else (bench.surface s).errno := by
  by_cases hSame : t = s
  · subst hSame
    simp [surface, setErrno]
  · have hVal : t.val ≠ s.val := fun hEq => hSame (Fin.ext hEq)
    simp [surface, setErrno, Vector.getElem_set_ne, hVal, hSame]

theorem stepSlot_surfaces
    (bench : Bench n m)
    (b : Fin n)
    (i : Nat)
    (c : SlotCall) :
    (bench.stepSlot b i c).1.surfaces = bench.surfaces := by
  unfold stepSlot
  split
  · rfl
  · rfl

/- A step that keeps the surfaces writes into no cell. -/
theorem errno_of_surfaces_eq
    {bench after : Bench n m}
    (s : Fin m)
    (hSurfaces : after.surfaces = bench.surfaces) :
    (after.surface s).errno = (bench.surface s).errno := by
  rw [surface, surface, hSurfaces]

theorem stepSurface_errno
    (bench : Bench n m)
    (s t : Fin m)
    (c : SurfaceCall) :
    ((bench.stepSurface t c).1.surface s).errno.code =
      (bench.written? s (.surface t c)).getD
        (bench.surface s).errno.code := by
  cases c with
  | errno c =>
      cases c with
      | get =>
          simp only [stepSurface, surface_setErrno,
            ErrnoStep.apply]
          split
          · rename_i hSame
            subst hSame
            rfl
          · rfl
      | set code =>
          simp only [stepSurface, surface_setErrno,
            ErrnoStep.apply, written?, write?]
          split <;> rfl
      | take =>
          simp only [stepSurface, surface_setErrno,
            ErrnoStep.apply, written?, write?]
          split <;> rfl
  | bayCount => rfl
  | describe => rfl
  | directory c => rfl
  | install i code =>
      by_cases hIndex : i < slotCount
      · simp only [stepSurface, Bay.index?_of_lt hIndex, written?,
          write?, failure?, if_pos hIndex]
        rfl
      · simp only [stepSurface, Bay.index?_of_not_lt hIndex,
          surface_setErrno, written?, write?, failure?,
          if_neg hIndex, Option.map_some]
        split <;> rfl

theorem stepDevice_errno
    {bench : Bench n m}
    (hBench : bench.Coherent)
    (s t : Fin m)
    (h : Handle n)
    (c : DeviceCall) :
    ((bench.stepDevice t h c).1.surface s).errno.code =
      (bench.written? s (.device t h c)).getD
        (bench.surface s).errno.code := by
  simp only [stepDevice, written?, write?, failure?]
  cases hHandle : bench.resolve t h with
  | none => rfl
  | some place =>
      rcases place with ⟨b, i⟩
      have hFollows :=
        c.run_follows (bench.env b) bench.clock
          (bench.surface t).errno (hBench b i)
      dsimp only
      rw [surface_setErrno, hFollows.errno_eq]
      cases hFailure : c.failure? (bench.slot b i) with
      | none =>
          by_cases hSame : t = s
          · subst hSame
            simp
          · rw [if_neg hSame]
            rfl
      | some f =>
          by_cases hSame : t = s
          · simp [hSame]
          · simp only [if_neg hSame, Option.map_some]
            rfl

/- Each cell takes what the step writes there, or stays. -/
theorem step_errno
    {bench : Bench n m}
    (hBench : bench.Coherent)
    (s : Fin m)
    (step : Step n m) :
    ((bench.step step).1.surface s).errno.code =
      (bench.written? s step).getD
        (bench.surface s).errno.code := by
  cases step with
  | clock c => rfl
  | owner c => rfl
  | bay b c =>
      have hKept :=
        errno_of_surfaces_eq s (bench.stepBay_looked b c).surfaces
      exact congrArg Errno.code hKept
  | slot b i c =>
      have hKept :=
        errno_of_surfaces_eq s (bench.stepSlot_surfaces b i c)
      exact congrArg Errno.code hKept
  | copy b i c =>
      have hKept :=
        errno_of_surfaces_eq s
          (bench.stepCopy_looked b i c).surfaces
      exact congrArg Errno.code hKept
  | relation b i c =>
      have hKept :=
        errno_of_surfaces_eq s
          (bench.stepRelation_looked b i c).surfaces
      exact congrArg Errno.code hKept
  | surface t c => exact bench.stepSurface_errno s t c
  | device t h c => exact stepDevice_errno hBench s t h c

------------------------------------------------------------
-- Cells after a run
------------------------------------------------------------

theorem run_errno
    {bench : Bench n m}
    (hBench : bench.Coherent)
    (s : Fin m)
    (steps : List (Step n m)) :
    ((bench.run steps).1.surface s).errno.code =
      (bench.writes s steps).getLast?.getD
        (bench.surface s).errno.code := by
  induction steps generalizing bench with
  | nil => rfl
  | cons step rest ih =>
      have hRest := ih (step_coherent hBench step)
      rw [step_errno hBench s step] at hRest
      calc
        ((bench.run (step :: rest)).1.surface s).errno.code
            = (((bench.step step).1.run rest).1.surface
                s).errno.code := rfl
        _ = ((bench.step step).1.writes s rest).getLast?.getD
              ((bench.written? s step).getD
                (bench.surface s).errno.code) := hRest
        _ = (bench.writes s (step :: rest)).getLast?.getD
              (bench.surface s).errno.code := by
            rw [writes, List.getLast?_append]
            cases bench.written? s step with
            | none => simp
            | some code =>
                cases ((bench.step step).1.writes s rest).getLast? <;>
                  simp

theorem fresh_errno
    (clock : Clock)
    (configs : Vector Config n)
    (views : Vector (Fin n) m)
    (s : Fin m) :
    ((fresh clock configs views).surface s).errno = .clear := by
  simp [surface, fresh]

/-
  After any run of a fresh bench every error cell holds what
  was written there last, or zero. A further step traces its
  failure if it is a failing raw call, once and with the error
  itself, and otherwise traces none.
-/
theorem errno_eq_last_write
    (clock : Clock)
    (configs : Vector Config n)
    (views : Vector (Fin n) m)
    (steps : List (Step n m)) :
    let start := fresh clock configs views
    let bench := (start.run steps).1
    (∀ s,
      (bench.surface s).errno.code =
        (start.writes s steps).getLast?.getD 0) ∧
    (∀ step,
      (bench.step step).2.events.filter Event.isFailureTrace =
        ((bench.failure? step).map
          (fun f => f.2.event)).toList) := by
  intro start bench
  have hStart : start.Reachable := .fresh clock configs views
  constructor
  · intro s
    have hRun := run_errno hStart.coherent s steps
    rw [fresh_errno] at hRun
    exact hRun
  · intro step
    rw [Event.filter_isFailureTrace]
    exact step_refusals (hStart.run steps).coherent step

end Bench

end DeviceBay
