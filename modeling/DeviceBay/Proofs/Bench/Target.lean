import DeviceBay.Proofs.Bench.Refusal
import DeviceBay.Proofs.Slot.ClockUse

/-
  This file says on which slot a step runs which operation, be
  it through a driver, a raw surface or the bay, and proves
  that the step does to the slot what the operation does, and
  nothing to any other slot.

  Key definitions include:
    * `DeviceCall.driverCall?`
    * `Outcome.Fails`
    * `Event.isStateReport`
    * `Bench.target?`
    * `Bench.callOn?`
    * `Bench.effectOn`
    * `Bench.Runs`

  Main declarations:
    * `Bench.runs_of_target?`
    * `Bench.step_slot`
    * `Bench.stateOf_of_update`
    * `Bench.answer_ask_of_state`
    * `Bench.step_takes_of_target?`
    * `Bench.step_takes`
    * `Bench.step_drift`
    * `Bench.step_config`
    * `Bench.step_owners`
    * `Bench.step_view`
-/

namespace DeviceBay

------------------------------------------------------------
-- Raw calls
------------------------------------------------------------

namespace DeviceCall

/-
  The driver call that a raw call makes. Timestamps and radios
  are no drivers' business, and a raw code that stands for
  nothing does not get as far.
-/
def driverCall? : DeviceCall → Option SlotCall
  | .timestamp => none
  | .radio _ => none
  | .motor c =>
      match c.typed with
      | .error _ => none
      | .ok call => some (.motor call)
  | .imu c => some (.imu c.typed)

theorem cases_of_driverCall?
    {raw : DeviceCall}
    {c : SlotCall}
    (hDriver : raw.driverCall? = some c) :
    (∃ call, c = .motor call) ∨ ∃ call, c = .imu call := by
  cases raw with
  | timestamp => cases hDriver
  | radio raw => cases hDriver
  | motor raw =>
      simp only [driverCall?] at hDriver
      split at hDriver
      · cases hDriver
      · rename_i call _
        cases hDriver
        exact Or.inl ⟨call, rfl⟩
  | imu raw =>
      cases hDriver
      exact Or.inr ⟨raw.typed, rfl⟩

end DeviceCall

/- Whether an event reports what became of the state of a device. -/
def Event.isStateReport : Event → Bool
  | .modeChanged _ _ _ => true
  | .calibrationStarted _ _ => true
  | .calibrationFinished _ => true
  | _ => false

/- An outcome that shows that the step failed, raw or not. -/
def Outcome.Fails
    (outcome : Outcome) : Prop :=
  (∃ f, outcome.answer = .failed f) ∨ outcome.refusals ≠ []

/- A failure of a raw call is no report of a state. -/
theorem RawReply.settle_stateReports
    {α : Type}
    (errno : Errno)
    (failure : Value)
    (render : α → Value)
    (reply : Reply SlotError α) :
    (settle errno failure render reply).events.filter
        Event.isStateReport =
      reply.events.filter Event.isStateReport := by
  cases hResult : reply.result with
  | ok value => rw [settle_of_ok errno failure render hResult]
  | error e =>
      rw [settle_of_error errno failure render hResult,
        List.filter_append]
      exact List.append_nil _

namespace Bench

variable {n m : Nat}

------------------------------------------------------------
-- Targets of steps
------------------------------------------------------------

/- The slot that a step runs an operation on, and the operation. -/
def target?
    (bench : Bench n m) :
    Step n m → Option ((Fin n × SlotIndex) × SlotCall)
  | .slot b i c =>
      if h : i < slotCount then
        some ((b, ⟨i, h⟩), c)
      else
        none
  | .surface s (.install i code) =>
      if h : i < slotCount then
        some
          (((bench.surface s).bay, ⟨i, h⟩),
            .presence (.install (DeviceType.ofCode? code)))
      else
        none
  | .device s h c =>
      match bench.resolve s h, c.driverCall? with
      | some place, some call => some (place, call)
      | _, _ => none
  | _ => none

/- The three ways in which a step gets an operation to run. -/
theorem cases_of_target?
    {bench : Bench n m}
    {s : Step n m}
    {b : Fin n}
    {i : SlotIndex}
    {c : SlotCall}
    (hTarget : bench.target? s = some ((b, i), c)) :
    s = .slot b i c ∨
      (∃ t code,
        s = .surface t (.install i code) ∧
          (bench.surface t).bay = b ∧
          c = .presence (.install (DeviceType.ofCode? code))) ∨
      ∃ t h raw,
        s = .device t h raw ∧
          bench.resolve t h = some (b, i) ∧
          raw.driverCall? = some c := by
  unfold target? at hTarget
  split at hTarget
  · split at hTarget
    · cases hTarget
      exact Or.inl rfl
    · cases hTarget
  · rename_i t j code
    split at hTarget
    · cases hTarget
      exact Or.inr (Or.inl ⟨t, code, rfl, rfl, rfl⟩)
    · cases hTarget
  · rename_i t h raw
    split at hTarget
    · rename_i hHandle hDriver
      cases hTarget
      exact Or.inr (Or.inr ⟨t, h, raw, rfl, hHandle, hDriver⟩)
    · cases hTarget
  · cases hTarget

/- The operation that a step runs on one slot. -/
def callOn?
    (bench : Bench n m)
    (b : Fin n)
    (i : SlotIndex)
    (s : Step n m) : Option SlotCall :=
  match bench.target? s with
  | none => none
  | some (place, c) => if place = (b, i) then some c else none

theorem callOn?_eq_some_iff
    (bench : Bench n m)
    (b : Fin n)
    (i : SlotIndex)
    (s : Step n m)
    (c : SlotCall) :
    bench.callOn? b i s = some c ↔
      bench.target? s = some ((b, i), c) := by
  unfold callOn?
  cases hTarget : bench.target? s with
  | none => simp
  | some target =>
      rcases target with ⟨place, call⟩
      by_cases hPlace : place = (b, i)
      · simp [hPlace]
      · simp [hPlace]

theorem callOn?_slot
    (bench : Bench n m)
    (b : Fin n)
    (i : SlotIndex)
    (c : SlotCall) :
    bench.callOn? b i (.slot b i c) = some c := by
  apply (bench.callOn?_eq_some_iff b i _ c).mpr
  simp [target?]

/- The effect of a step on one slot. -/
def effectOn
    (bench : Bench n m)
    (b : Fin n)
    (i : SlotIndex)
    (s : Step n m) : Effect :=
  match bench.callOn? b i s with
  | none => .nothing
  | some c =>
      c.effect (bench.env b) bench.clock (bench.slot b i)

/-
  A step that amounts to running one operation on one slot: all
  that shows of the step on slots, on the clock and in reports
  of states comes from there, and it fails exactly if that does.
-/
structure Runs
    (bench : Bench n m)
    (b : Fin n)
    (i : SlotIndex)
    (s : Step n m)
    (reply : Reply Failure Value) : Prop where
  slot : (bench.step s).1.slot b i = reply.slot
  others :
    ∀ d j, (b, i) ≠ (d, j) →
      (bench.step s).1.slot d j = bench.slot d j
  clock : (bench.step s).1.clock = reply.clock
  readings : (bench.step s).2.readings = reply.readings
  stateReports :
    (bench.step s).2.events.filter Event.isStateReport =
      reply.events.filter Event.isStateReport
  failed :
    (bench.step s).2.Fails ↔ ∃ e, reply.result = .error e

theorem slot_settle
    (bench : Bench n m)
    (b d : Fin n)
    (i j : SlotIndex)
    (slot : Slot)
    (clock : Clock) :
    (bench.settle b i slot clock).slot d j =
      (bench.setSlot b i slot).slot d j :=
  rfl

theorem slot_setErrno
    (bench : Bench n m)
    (s : Fin m)
    (errno : Errno)
    (d : Fin n)
    (j : SlotIndex) :
    (bench.setErrno s errno).slot d j = bench.slot d j :=
  rfl

theorem stepSlot_runs
    (bench : Bench n m)
    (b : Fin n)
    (i : SlotIndex)
    (c : SlotCall) :
    bench.Runs b i (.slot b i c)
      (c.run (bench.env b) bench.clock (bench.slot b i)) := by
  have hStep : bench.step (.slot b i c) = _ := stepSlot_eq rfl
  constructor
  case slot => rw [hStep, slot_settle, slot_setSlot_self]
  case others =>
    intro d j hNe
    rw [hStep, slot_settle,
      slot_setSlot_of_ne bench b d i j _ hNe]
  case clock => exact congrArg (fun result => result.1.clock) hStep
  case readings =>
    exact congrArg (fun result => result.2.readings) hStep
  case stateReports => rw [hStep]
  case failed =>
    constructor
    · rintro (⟨f, hAnswer⟩ | hRefusals)
      · cases hResult :
            (c.run (bench.env b) bench.clock
              (bench.slot b i)).result with
        | error e => exact ⟨e, rfl⟩
        | ok value =>
            rw [hStep, hResult] at hAnswer
            cases hAnswer
      · exact absurd (bench.stepSlot_refusals b i c) hRefusals
    · rintro ⟨e, hError⟩
      rw [hStep, hError]
      exact Or.inl ⟨e, rfl⟩

theorem stepInstall_runs
    (bench : Bench n m)
    (s : Fin m)
    (i : SlotIndex)
    (code : UInt8) :
    bench.Runs (bench.surface s).bay i
      (.surface s (.install i code))
      ((SlotCall.presence (.install (DeviceType.ofCode? code))).run
        (bench.env (bench.surface s).bay) bench.clock
        (bench.slot (bench.surface s).bay i)) := by
  have hStep :
      bench.step (.surface s (.install i code)) =
        (bench.setSlot (bench.surface s).bay i
          ((PresenceCall.install (DeviceType.ofCode? code)).apply
            (bench.slot (bench.surface s).bay i)),
          { answer := .raw .unit (bench.surface s).errno
            events :=
              [(PresenceCall.install
                (DeviceType.ofCode? code)).event
                (bench.slot (bench.surface s).bay i)] }) := by
    simp only [step, stepSurface, Bay.index?_of_lt i.isLt]
  constructor
  case slot =>
    rw [hStep, slot_setSlot_self]
    rfl
  case others =>
    intro d j hNe
    rw [hStep, slot_setSlot_of_ne bench _ d i j _ hNe]
  case clock => exact congrArg (fun result => result.1.clock) hStep
  case readings =>
    exact congrArg (fun result => result.2.readings) hStep
  case stateReports =>
    rw [hStep]
    rfl
  case failed =>
    rw [hStep]
    constructor
    · rintro (⟨f, hAnswer⟩ | hRefusals)
      · cases hAnswer
      · exact absurd rfl hRefusals
    · rintro ⟨e, hError⟩
      cases hError

/- A raw call that settles a reply runs what was replied to. -/
theorem stepDevice_runs
    {bench : Bench n m}
    {s : Fin m}
    {h : Handle n}
    {b : Fin n}
    {i : SlotIndex}
    {c : DeviceCall}
    {errno : Errno}
    {failure : Value}
    {render : Value → Value}
    {reply : Reply SlotError Value}
    (hHandle : bench.resolve s h = some (b, i))
    (hRun :
      c.run (bench.env b) bench.clock (bench.slot b i)
          (bench.surface s).errno =
        .settle errno failure render reply)
    (hQuiet : Quiet reply.events) :
    bench.Runs b i (.device s h c)
      (reply.mapError Failure.slot) := by
  have hStep := stepDevice_eq hHandle hRun
  constructor
  case slot =>
    rw [hStep, slot_setErrno, slot_settle, slot_setSlot_self]
    exact RawReply.settle_slot errno failure render reply
  case others =>
    intro d j hNe
    rw [hStep, slot_setErrno, slot_settle,
      slot_setSlot_of_ne bench b d i j _ hNe]
  case clock =>
    rw [hStep]
    exact RawReply.settle_clock errno failure render reply
  case readings =>
    rw [hStep]
    exact RawReply.settle_readings errno failure render reply
  case stateReports =>
    rw [hStep]
    exact RawReply.settle_stateReports errno failure render reply
  case failed =>
    rw [hStep]
    cases hResult : reply.result with
    | error e =>
        have hFails :
            Event.guardFailed e ∈
              (RawReply.settle errno failure render
                reply).events := by
          rw [RawReply.settle_of_error errno failure render hResult]
          exact List.mem_append_right _ (List.mem_singleton.mpr rfl)
        constructor
        · intro _
          refine ⟨.slot e, ?_⟩
          rw [Reply.mapError_result, hResult]
          rfl
        · intro _
          exact Or.inr
            (List.ne_nil_of_mem (List.mem_filter.mpr ⟨hFails, rfl⟩))
    | ok value =>
        constructor
        · rintro (⟨f, hAnswer⟩ | hRefusals)
          · cases hAnswer
          · rw [RawReply.settle_of_ok errno failure render hResult]
              at hRefusals
            exact absurd hQuiet hRefusals
        · rintro ⟨f, hError⟩
          rw [Reply.mapError_result, hResult] at hError
          cases hError

/- A step does what the operation does that it runs. -/
theorem runs_of_target?
    {bench : Bench n m}
    {s : Step n m}
    {b : Fin n}
    {i : SlotIndex}
    {c : SlotCall}
    (hTarget : bench.target? s = some ((b, i), c)) :
    bench.Runs b i s
      (c.run (bench.env b) bench.clock (bench.slot b i)) := by
  cases s
  case slot d j call =>
    simp only [target?] at hTarget
    split at hTarget
    · cases hTarget
      exact bench.stepSlot_runs b _ c
    · cases hTarget
  case surface t call =>
    cases call
    case install j code =>
      simp only [target?] at hTarget
      split at hTarget
      · cases hTarget
        exact bench.stepInstall_runs t _ code
      · cases hTarget
    all_goals cases hTarget
  case device t h call =>
    simp only [target?] at hTarget
    split at hTarget
    · rename_i place made hHandle hCall
      cases hTarget
      cases call with
      | timestamp => cases hCall
      | radio raw => cases hCall
      | motor raw =>
          simp only [DeviceCall.driverCall?] at hCall
          split at hCall
          · cases hCall
          · rename_i typed hTyped
            cases hCall
            exact stepDevice_runs hHandle
              (raw.run_of_typed _ _ _ _ hTyped)
              (typed.run_quiet _ _ _)
      | imu raw =>
          cases hCall
          exact stepDevice_runs hHandle (raw.run_eq _ _ _ _)
            (raw.typed.run_quiet _ _ _)
    · cases hTarget
  all_goals cases hTarget

------------------------------------------------------------
-- Steps without a target
------------------------------------------------------------

/-
  A step that runs no operation on any slot: all slots stay as
  they are, and no state is reported.
-/
structure Idles
    (bench : Bench n m)
    (s : Step n m) : Prop where
  slot : ∀ b i, (bench.step s).1.slot b i = bench.slot b i
  stateReports :
    (bench.step s).2.events.filter Event.isStateReport = []

theorem idles_of_looked
    {bench : Bench n m}
    {s : Step n m}
    (hLooked : bench.Looked (bench.step s)) :
    bench.Idles s := by
  constructor
  · exact hLooked.slot
  · rw [hLooked.events]
    rfl

/- A step that leaves the bench alone runs nothing on it. -/
theorem idles_of_step_eq
    {bench : Bench n m}
    {s : Step n m}
    {answer : Answer}
    (hStep : bench.step s = (bench, { answer := answer })) :
    bench.Idles s := by
  apply idles_of_looked
  rw [hStep]
  exact bench.looked_self answer

theorem idles_of_reply
    {bench : Bench n m}
    {s : Fin m}
    {h : Handle n}
    {b : Fin n}
    {i : SlotIndex}
    {c : DeviceCall}
    {reply : RawReply}
    (hHandle : bench.resolve s h = some (b, i))
    (hRun :
      c.run (bench.env b) bench.clock (bench.slot b i)
          (bench.surface s).errno = reply)
    (hSlot : reply.slot = bench.slot b i)
    (hReports : reply.events.filter Event.isStateReport = []) :
    bench.Idles (.device s h c) := by
  have hStep := stepDevice_eq hHandle hRun
  constructor
  · intro d j
    rw [hStep, slot_setErrno, slot_settle, hSlot, setSlot_slot]
  · rw [hStep]
    exact hReports

theorem radio_stateReports
    (slot : Slot)
    (clock : Clock)
    (errno : Errno)
    (c : RawRadioCall) :
    (c.run clock slot errno).events.filter
      Event.isStateReport = [] := by
  apply List.filter_eq_nil_iff.mpr
  intro e hMember
  rcases List.mem_append.mp hMember with hOpen | hAsked
  · rcases List.mem_singleton.mp hOpen with rfl
    simp [Event.isStateReport]
  · cases hRequest : c.request? with
    | none => simp [hRequest] at hAsked
    | some request =>
        simp only [hRequest, RadioCall.events, List.mem_map]
          at hAsked
        rcases hAsked with ⟨activity, _, rfl⟩
        simp [Event.isStateReport]

/- A raw code that stands for nothing is refused, or not even seen. -/
theorem undecoded_stateReports
    (slot : Slot)
    (clock : Clock)
    (errno : Errno)
    (e : UnknownVariant) :
    let reply : RawReply :=
      match slot.validate .motor with
      | .error refusal =>
          .settleUnit errno (.still slot clock (.error refusal))
      | .ok () => .reject slot clock e
    reply.slot = slot ∧
      reply.events.filter Event.isStateReport = [] := by
  cases slot.validate .motor with
  | error refusal => exact ⟨rfl, rfl⟩
  | ok passed => exact ⟨rfl, rfl⟩

theorem idles_of_target?
    {bench : Bench n m}
    {s : Step n m}
    (hTarget : bench.target? s = none) :
    bench.Idles s := by
  cases s with
  | clock c => exact ⟨fun _ _ => rfl, rfl⟩
  | owner c => exact ⟨fun _ _ => rfl, rfl⟩
  | bay b c => exact idles_of_looked (bench.stepBay_looked b c)
  | copy b i c =>
      exact idles_of_looked (bench.stepCopy_looked b i c)
  | relation b i c =>
      exact idles_of_looked (bench.stepRelation_looked b i c)
  | slot b i c =>
      have hIndex : ¬ i < slotCount := by
        intro hLt
        simp [target?, hLt] at hTarget
      have hStep :
          bench.step (.slot b i c) =
            (bench,
              { answer := .failed (.slot (.outOfRange i)) }) := by
        simp only [step, stepSlot, Bay.index?_of_not_lt hIndex]
      exact idles_of_step_eq hStep
  | surface t c =>
      cases c with
      | errno c => exact ⟨fun _ _ => rfl, rfl⟩
      | bayCount => exact ⟨fun _ _ => rfl, rfl⟩
      | describe => exact ⟨fun _ _ => rfl, rfl⟩
      | directory c => exact ⟨fun _ _ => rfl, rfl⟩
      | install i code =>
          have hIndex : ¬ i < slotCount := by
            intro hLt
            simp [target?, hLt] at hTarget
          constructor
          · intro b j
            simp only [step, stepSurface,
              Bay.index?_of_not_lt hIndex, slot_setErrno]
          · simp only [step, stepSurface,
              Bay.index?_of_not_lt hIndex]
            rfl
  | device t h c =>
      cases hHandle : bench.resolve t h with
      | none =>
          have hStep :
              bench.step (.device t h c) =
                (bench,
                  { answer :=
                      .noHandle (bench.surface t).errno }) := by
            simp only [step, stepDevice, hHandle]
          exact idles_of_step_eq hStep
      | some place =>
          rcases place with ⟨b, i⟩
          simp only [target?, hHandle] at hTarget
          cases c with
          | timestamp => exact idles_of_reply hHandle rfl rfl rfl
          | radio raw =>
              exact idles_of_reply hHandle rfl rfl
                (radio_stateReports _ _ _ raw)
          | imu raw => simp [DeviceCall.driverCall?] at hTarget
          | motor raw =>
              cases hTyped : raw.typed with
              | ok call =>
                  simp [DeviceCall.driverCall?, hTyped] at hTarget
              | error e =>
                  have hIdle := undecoded_stateReports
                    (bench.slot b i) bench.clock
                    (bench.surface t).errno e
                  exact idles_of_reply hHandle
                    (raw.run_of_undecoded _ _ _ _ hTyped)
                    hIdle.1 hIdle.2

------------------------------------------------------------
-- Effects of steps
------------------------------------------------------------

theorem runs_of_callOn?
    {bench : Bench n m}
    {s : Step n m}
    {b : Fin n}
    {i : SlotIndex}
    {c : SlotCall}
    (hCall : bench.callOn? b i s = some c) :
    bench.Runs b i s
      (c.run (bench.env b) bench.clock (bench.slot b i)) :=
  runs_of_target? ((bench.callOn?_eq_some_iff b i s c).mp hCall)

theorem slot_of_callOn?_eq_none
    {bench : Bench n m}
    {s : Step n m}
    {b : Fin n}
    {i : SlotIndex}
    (hCall : bench.callOn? b i s = none) :
    (bench.step s).1.slot b i = bench.slot b i := by
  cases hTarget : bench.target? s with
  | none => exact (idles_of_target? hTarget).slot b i
  | some target =>
      rcases target with ⟨⟨d, j⟩, c⟩
      apply (runs_of_target? hTarget).others
      intro hSame
      simp [callOn?, hTarget, hSame] at hCall

theorem slot_of_callOn?
    {bench : Bench n m}
    {s : Step n m}
    {b : Fin n}
    {i : SlotIndex}
    {c : SlotCall}
    (hCall : bench.callOn? b i s = some c) :
    (bench.step s).1.slot b i =
      (c.effect (bench.env b) bench.clock (bench.slot b i)).apply
        (bench.slot b i) := by
  have hShows :=
    c.run_shows (bench.env b) bench.clock (bench.slot b i)
  rw [(runs_of_callOn? hCall).slot, hShows.slot_eq]

/- A state in reach becomes what an update makes of it. -/
theorem stateOf_of_update
    {bench : Bench n m}
    {s : Step n m}
    {b : Fin n}
    {i : SlotIndex}
    {c : SlotCall}
    {clock : Clock}
    {k : Kind}
    {edit : k.State → k.State}
    {before : k.State}
    (hCall : bench.callOn? b i s = some c)
    (hEffect :
      c.effect (bench.env b) bench.clock (bench.slot b i) =
        .update clock k edit)
    (hState : (bench.slot b i).stateOf k = .ok before) :
    ((bench.step s).1.slot b i).stateOf k = .ok (edit before) := by
  rw [slot_of_callOn? hCall, hEffect]
  exact Slot.update_stateOf clock edit hState

/- The readings of a step are those of its operation. -/
theorem readings_of_callOn?
    {bench : Bench n m}
    {s : Step n m}
    {b : Fin n}
    {i : SlotIndex}
    {c : SlotCall}
    (hCall : bench.callOn? b i s = some c) :
    (bench.step s).2.readings =
      (c.firstReading? bench.clock).toList ++
        ((c.effect (bench.env b) bench.clock
          (bench.slot b i)).stamp? (bench.slot b i)).toList := by
  have hShows :=
    c.run_shows (bench.env b) bench.clock (bench.slot b i)
  rw [(runs_of_callOn? hCall).readings, hShows.readings_eq]

/- What a step does to a slot is its effect there. -/
theorem step_slot
    (bench : Bench n m)
    (b : Fin n)
    (i : SlotIndex)
    (s : Step n m) :
    (bench.step s).1.slot b i =
      (bench.effectOn b i s).apply (bench.slot b i) := by
  cases hCall : bench.callOn? b i s with
  | none =>
      rw [slot_of_callOn?_eq_none hCall]
      simp [effectOn, hCall, Effect.apply]
  | some c =>
      rw [slot_of_callOn? hCall]
      simp [effectOn, hCall]

/- A motor in reach answers every query from its registers. -/
theorem answer_ask_of_state
    {bench : Bench n m}
    {b : Fin n}
    {i : SlotIndex}
    {state : Motor}
    (hState : (bench.slot b i).stateOf .motor = .ok state)
    (q : MotorQuery) :
    (bench.step (.slot b i (.motor (.ask q)))).2.answer =
      .value
        (q.value
          (q.read (bench.env b) state
            (bench.slot b i).timestamp)) := by
  have hAsked :
      q.ask (bench.env b) (bench.slot b i) =
        .ok
          (q.read (bench.env b) state
            (bench.slot b i).timestamp) :=
    Slot.look_of_state (k := .motor) _ hState
  rw [stepSlot_eq rfl]
  simp only [SlotCall.run, MotorCall.run, Reply.mapError_result,
    hAsked]
  rfl

------------------------------------------------------------
-- Settings
------------------------------------------------------------

theorem config_setSlot
    (bench : Bench n m)
    (b d : Fin n)
    (i : SlotIndex)
    (slot : Slot) :
    ((bench.setSlot b i slot).bay d).config =
      (bench.bay d).config := by
  by_cases hBay : b = d
  · subst hBay
    simp [bay, setSlot, Bay.setSlot]
  · have hVal : b.val ≠ d.val := fun hEq => hBay (Fin.ext hEq)
    simp [bay, setSlot, Vector.getElem_set_ne, hVal]

/- No step changes the settings of a bay. -/
theorem step_config
    (bench : Bench n m)
    (s : Step n m)
    (b : Fin n) :
    ((bench.step s).1.bay b).config = (bench.bay b).config := by
  cases s with
  | clock c => rfl
  | owner c => rfl
  | bay d c => rw [bay, bay, step, (bench.stepBay_looked d c).bays]
  | copy d i c =>
      rw [bay, bay, step, (bench.stepCopy_looked d i c).bays]
  | relation d i c =>
      rw [bay, bay, step, (bench.stepRelation_looked d i c).bays]
  | slot d i c =>
      simp only [step, stepSlot]
      split
      · rfl
      · exact config_setSlot bench d b _ _
  | surface t c =>
      cases c with
      | install i code =>
          simp only [step, stepSurface]
          split
          · rfl
          · exact config_setSlot bench _ b _ _
      | errno c => rfl
      | bayCount => rfl
      | describe => rfl
      | directory c => rfl
  | device t h c =>
      simp only [step, stepDevice]
      split
      · rfl
      · exact config_setSlot bench _ b _ _

------------------------------------------------------------
-- Owners of tuning constants
------------------------------------------------------------

/- The owners after a step: only steps of owners change them. -/
def ownersAfter
    (owners : Owners) : Step n m → Owners
  | .owner c => (c.apply owners).2
  | _ => owners

theorem step_owners
    (bench : Bench n m)
    (s : Step n m) :
    (bench.step s).1.owners = ownersAfter bench.owners s := by
  cases s with
  | clock c => rfl
  | owner c => rfl
  | bay b c => cases c <;> rfl
  | slot b i c =>
      simp only [step, stepSlot]
      split <;> rfl
  | copy b i c =>
      simp only [step, stepCopy]
      split
      · rfl
      · cases c with
        | save name => rfl
        | compare name =>
            dsimp only
            split <;> rfl
  | relation b i c =>
      simp only [step, stepRelation]
      split
      · rfl
      · cases c with
        | deviceCount => rfl
        | same other j =>
            dsimp only
            split <;> rfl
  | surface t c =>
      cases c with
      | install i code =>
          simp only [step, stepSurface]
          split <;> rfl
      | errno c => rfl
      | bayCount => rfl
      | describe => rfl
      | directory c => rfl
  | device t h c =>
      simp only [step, stepDevice]
      split <;> rfl

------------------------------------------------------------
-- The clock and the surfaces
------------------------------------------------------------

/- The readings of a step that runs no operation on any slot. -/
def idleReadings
    (clock : Clock) : Step n m → List Instant
  | .bay _ .now => [clock.now]
  | _ => []

/- The clock after a step that runs no operation on any slot. -/
def idleClock
    (clock : Clock) : Step n m → Clock
  | .clock c => c.apply clock
  | .bay _ .now => clock.read.2
  | _ => clock

theorem step_takes_of_target?
    {bench : Bench n m}
    {s : Step n m}
    (hTarget : bench.target? s = none) :
    (bench.step s).2.readings = idleReadings bench.clock s ∧
      (bench.step s).1.clock = idleClock bench.clock s := by
  cases s with
  | clock c => exact ⟨rfl, rfl⟩
  | owner c => exact ⟨rfl, rfl⟩
  | bay b c => cases c <;> exact ⟨rfl, rfl⟩
  | copy b i c =>
      simp only [step, stepCopy]
      split
      · exact ⟨rfl, rfl⟩
      · cases c with
        | save name => exact ⟨rfl, rfl⟩
        | compare name =>
            dsimp only
            split <;> exact ⟨rfl, rfl⟩
  | relation b i c =>
      simp only [step, stepRelation]
      split
      · exact ⟨rfl, rfl⟩
      · cases c with
        | deviceCount => exact ⟨rfl, rfl⟩
        | same other j =>
            dsimp only
            split <;> exact ⟨rfl, rfl⟩
  | slot b i c =>
      have hIndex : ¬ i < slotCount := by
        intro hLt
        simp [target?, hLt] at hTarget
      simp only [step, stepSlot, Bay.index?_of_not_lt hIndex]
      exact ⟨rfl, rfl⟩
  | surface t c =>
      cases c with
      | install i code =>
          simp only [step, stepSurface]
          split <;> exact ⟨rfl, rfl⟩
      | errno c => exact ⟨rfl, rfl⟩
      | bayCount => exact ⟨rfl, rfl⟩
      | describe => exact ⟨rfl, rfl⟩
      | directory c => exact ⟨rfl, rfl⟩
  | device t h c =>
      simp only [step, stepDevice]
      cases hHandle : bench.resolve t h with
      | none => exact ⟨rfl, rfl⟩
      | some place =>
          simp only [target?, hHandle] at hTarget
          cases c with
          | timestamp => exact ⟨rfl, rfl⟩
          | radio raw => exact ⟨rfl, rfl⟩
          | imu raw => simp [DeviceCall.driverCall?] at hTarget
          | motor raw =>
              cases hTyped : raw.typed with
              | ok call =>
                  simp [DeviceCall.driverCall?, hTyped] at hTarget
              | error e =>
                  simp only [DeviceCall.run,
                    raw.run_of_undecoded _ _ _ _ hTyped]
                  split <;> exact ⟨rfl, rfl⟩

theorem step_clock_of_target?
    {bench : Bench n m}
    {s : Step n m}
    (hTarget : bench.target? s = none) :
    (bench.step s).1.clock = idleClock bench.clock s :=
  (step_takes_of_target? hTarget).2

/- A step takes its readings from the clock as its operation does. -/
theorem step_takes
    {bench : Bench n m}
    {s : Step n m}
    {b : Fin n}
    {i : SlotIndex}
    {c : SlotCall}
    (hTarget : bench.target? s = some ((b, i), c)) :
    let count := (bench.step s).2.readings.length
    (bench.step s).2.readings = bench.clock.shown count ∧
      (bench.step s).1.clock =
        (c.advance? (bench.slot b i)).elim
          (bench.clock.drifted count)
          (bench.clock.drifted count).advance := by
  have hRuns := runs_of_target? hTarget
  have hTakes :=
    c.run_takes (bench.env b) bench.clock (bench.slot b i)
  rw [hRuns.readings, hRuns.clock]
  exact ⟨hTakes.readings_eq, hTakes.clock_eq⟩

theorem drift_idleClock
    (clock : Clock)
    (s : Step n m) :
    (idleClock clock s).drift = clock.drift := by
  unfold idleClock
  split
  · rename_i c
    cases c <;> rfl
  · rfl
  · rfl

/- No step changes how the clock drifts. -/
theorem step_drift
    (bench : Bench n m)
    (s : Step n m) :
    (bench.step s).1.clock.drift = bench.clock.drift := by
  cases hTarget : bench.target? s with
  | none => rw [step_clock_of_target? hTarget, drift_idleClock]
  | some target =>
      rcases target with ⟨⟨b, i⟩, c⟩
      rw [(step_takes hTarget).2]
      cases c.advance? (bench.slot b i) with
      | none => exact Clock.drifted_drift _ _
      | some d => exact Clock.drifted_drift _ _

/- The steps that move the clock do not fail. -/
theorem idleClock_of_fails
    {bench : Bench n m}
    {s : Step n m}
    (hFails : (bench.step s).2.Fails) :
    idleClock bench.clock s = bench.clock := by
  have hNever (value : Value) (readings : List Instant) :
      ¬ Outcome.Fails
        { answer := .value value, readings := readings } := by
    rintro (⟨f, hAnswer⟩ | hRefusals)
    · cases hAnswer
    · exact hRefusals rfl
  cases s with
  | clock c => exact absurd hFails (hNever _ _)
  | bay b c =>
      cases c with
      | now => exact absurd hFails (hNever _ _)
      | count => rfl
      | countByType t => rfl
      | status => rfl
      | indices => rfl
      | config => rfl
      | describe => rfl
  | owner c => rfl
  | copy b i c => rfl
  | relation b i c => rfl
  | slot b i c => rfl
  | surface t c => rfl
  | device t h c => rfl

theorem view_setErrno
    (bench : Bench n m)
    (s t : Fin m)
    (errno : Errno) :
    ((bench.setErrno t errno).surface s).bay =
      (bench.surface s).bay := by
  by_cases hSame : t = s
  · subst hSame
    simp [surface, setErrno]
  · have hVal : t.val ≠ s.val := fun hEq => hSame (Fin.ext hEq)
    simp [surface, setErrno, Vector.getElem_set_ne, hVal]

/- A surface shows the same bay forever. -/
theorem step_view
    (bench : Bench n m)
    (s : Step n m)
    (t : Fin m) :
    ((bench.step s).1.surface t).bay = (bench.surface t).bay := by
  cases s with
  | clock c => rfl
  | owner c => rfl
  | bay d c =>
      rw [surface, surface, step, (bench.stepBay_looked d c).surfaces]
  | copy d i c =>
      rw [surface, surface, step,
        (bench.stepCopy_looked d i c).surfaces]
  | relation d i c =>
      rw [surface, surface, step,
        (bench.stepRelation_looked d i c).surfaces]
  | slot d i c =>
      simp only [step, stepSlot]
      split <;> rfl
  | surface u c =>
      cases c with
      | errno c => exact bench.view_setErrno t u _
      | install i code =>
          simp only [step, stepSurface]
          split
          · exact bench.view_setErrno t u _
          · rfl
      | bayCount => rfl
      | describe => rfl
      | directory c => rfl
  | device u h c =>
      simp only [step, stepDevice]
      split
      · rfl
      · exact view_setErrno _ t u _

end Bench

end DeviceBay
