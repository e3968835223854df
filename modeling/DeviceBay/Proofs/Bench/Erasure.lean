import DeviceBay.Proofs.Bench.Locality
import DeviceBay.Proofs.Bench.Padding

/-
  This file proves that a run on a clock that stands still can
  do without any of its reads, and without the calls that a
  driver accepts and does nothing about. What is left of the
  run shows the same, and the devices are left the same.

  A copy that was put aside is a read of its slot as well, if
  no step that is left compares a slot to that copy.

  Key definitions include:
    * `SlotCall.inert`
    * `Step.inert`
    * `Entry`
    * `needsCopy`
    * `erasable`
    * `Bench.SameButCopies`
    * `Bench.Partnerless`
    * `Bench.RawPartnerless`

  Main declarations:
    * `Bench.step_of_inert`
    * `Bench.SameButCopies.erase`
    * `Bench.SameButCopies.keep`
    * `Bench.SameButCopies.run`
    * `Bench.partnerless`
    * `Bench.rawPartnerless`
    * `Bench.reads_can_be_erased`
-/

namespace DeviceBay

variable {n m : Nat}

------------------------------------------------------------
-- Inert calls
------------------------------------------------------------

def MotorCall.inert : MotorCall → Bool
  | .ask _ => true
  | .tell _ => false
  | .ignored _ => true

/- A status read is not inert, since it may close a window. -/
def ImuCall.inert : ImuCall → Bool
  | .ask _ => true
  | .quaternion => true
  | .mode => true
  | .reset => false
  | .status => false
  | .isCalibrating => false
  | .ignored _ => true

def SensorCall.inert : SensorCall → Bool
  | .rotationPosition => true
  | .setRotationPosition _ => false
  | .resetRotationPosition => false
  | .distance => true
  | .optical _ => true
  | .gps _ => true
  | .setGpsOffset _ => false

def LineCall.inert : LineCall → Bool
  | .mode _ => true
  | .setMode _ _ => false

namespace SlotCall

/- Whether an operation only looks, or is accepted to no effect. -/
def inert : SlotCall → Bool
  | .presence _ => false
  | .handle _ => true
  | .validate _ => true
  | .peek _ => true
  | .publish _ _ _ => false
  | .check _ _ => true
  | .motor c => c.inert
  | .imu c => c.inert
  | .sensor c => c.inert
  | .line c => c.inert
  | .link _ _ _ => true

theorem effect_of_inert
    {c : SlotCall}
    (env : Env)
    (clock : Clock)
    (slot : Slot)
    (hInert : c.inert = true) :
    c.effect env clock slot = .nothing := by
  cases c
  case presence c => cases hInert
  case publish k edit meanwhile => cases hInert
  case motor c =>
    cases c with
    | tell c => cases hInert
    | _ => rfl
  case imu c =>
    cases c
    case reset => cases hInert
    case status => cases hInert
    case isCalibrating => cases hInert
    all_goals rfl
  case sensor c =>
    cases c
    case setRotationPosition position => cases hInert
    case resetRotationPosition => cases hInert
    case setGpsOffset offset => cases hInert
    all_goals rfl
  case line c =>
    cases c with
    | mode line => rfl
    | setMode line use => cases hInert
  all_goals rfl

theorem advance?_of_inert
    {c : SlotCall}
    (slot : Slot)
    (hInert : c.inert = true) :
    c.advance? slot = none := by
  cases c
  case publish k edit meanwhile => cases hInert
  all_goals rfl

/- An inert operation leaves its slot and such a clock alone. -/
theorem run_of_inert
    {c : SlotCall}
    {clock : Clock}
    (hStill : clock.drift = id)
    (env : Env)
    (slot : Slot)
    (hInert : c.inert = true) :
    (c.run env clock slot).slot = slot ∧
      (c.run env clock slot).clock = clock := by
  constructor
  · rw [(c.run_shows env clock slot).slot_eq,
      effect_of_inert env clock slot hInert]
    rfl
  · rw [c.run_clock hStill, advance?_of_inert slot hInert]
    rfl

end SlotCall

------------------------------------------------------------
-- Inert steps
------------------------------------------------------------

def OwnerStep.inert : OwnerStep → Bool
  | .create _ _ => false
  | .share _ _ => false
  | .drop _ => false
  | .strongCount _ => true

def SurfaceCall.inert : SurfaceCall → Bool
  | .errno .get => true
  | .errno (.set _) => false
  | .errno .take => false
  | .bayCount => true
  | .describe => true
  | .install _ _ => false
  | .directory _ => true

/-
  Raw calls on a motor or on an inertial sensor can fail, which
  leaves a code in the error cell. None of the others can.
-/
def DeviceCall.inert : DeviceCall → Bool
  | .timestamp => true
  | .radio _ => true
  | .motor _ => false
  | .imu _ => false

/- Whether a step leaves everything as it is. -/
def Step.inert : Step n m → Bool
  | .clock _ => false
  | .owner c => c.inert
  | .bay _ _ => true
  | .slot _ _ c => c.inert
  | .copy _ _ (.save _) => false
  | .copy _ _ (.compare _) => true
  | .relation _ _ _ => true
  | .surface _ c => c.inert
  | .device _ _ c => c.inert

namespace Bench

variable {bench : Bench n m} {s : Step n m}

theorem stepSlot_of_inert
    (hStill : bench.clock.drift = id)
    (b : Fin n)
    (i : Nat)
    {c : SlotCall}
    (hInert : c.inert = true) :
    (bench.step (.slot b i c)).1 = bench := by
  by_cases hIndex : i < slotCount
  · have hStep : bench.step (.slot b i c) = _ :=
      stepSlot_eq (i := ⟨i, hIndex⟩) rfl
    rcases SlotCall.run_of_inert hStill (bench.env b)
        (bench.slot b ⟨i, hIndex⟩) hInert with
      ⟨hSlot, hClock⟩
    rw [hStep, hSlot, hClock, settle_slot]
  · simp only [step, stepSlot, Bay.index?_of_not_lt hIndex]

/- A raw call that leaves its slot, the clock and the cell alone. -/
theorem stepDevice_of_same
    {t : Fin m}
    {h : Handle n}
    {b : Fin n}
    {i : SlotIndex}
    {c : DeviceCall}
    {reply : RawReply}
    (hHandle : bench.resolve t h = some (b, i))
    (hReply :
      c.run (bench.env b) bench.clock (bench.slot b i)
          (bench.surface t).errno = reply)
    (hSlot : reply.slot = bench.slot b i)
    (hClock : reply.clock = bench.clock)
    (hErrno : reply.errno = (bench.surface t).errno) :
    (bench.step (.device t h c)).1 = bench := by
  rw [stepDevice_eq hHandle hReply, hSlot, hClock, hErrno,
    settle_slot, setErrno_errno]

theorem stepDevice_of_inert
    (t : Fin m)
    (h : Handle n)
    {c : DeviceCall}
    (hInert : c.inert = true) :
    (bench.step (.device t h c)).1 = bench := by
  cases hHandle : bench.resolve t h with
  | none => simp only [step, stepDevice, hHandle]
  | some place =>
      cases c with
      | timestamp => exact stepDevice_of_same hHandle rfl rfl rfl rfl
      | radio c => exact stepDevice_of_same hHandle rfl rfl rfl rfl
      | motor c => cases hInert
      | imu c => cases hInert

/- On a clock that stands still an inert step changes nothing. -/
theorem step_of_inert
    (hStill : bench.clock.drift = id)
    (hInert : s.inert = true) :
    (bench.step s).1 = bench := by
  cases s with
  | clock c => cases hInert
  | owner c =>
      cases c with
      | strongCount name => rfl
      | _ => cases hInert
  | bay b c =>
      cases c with
      | now =>
          have hRead := Clock.read_snd_of_still hStill
          simp only [step, stepBay, hRead]
      | _ => rfl
  | slot b i c => exact stepSlot_of_inert hStill b i hInert
  | copy b i c =>
      cases c with
      | save name => cases hInert
      | compare name => exact bench.step_compare_fst b i name
  | relation b i c => exact bench.step_relation_fst b i c
  | surface t c =>
      cases c with
      | errno c =>
          cases c with
          | get => exact bench.setErrno_errno t
          | _ => cases hInert
      | install i code => cases hInert
      | _ => rfl
  | device t h c => exact stepDevice_of_inert t h hInert

end Bench

------------------------------------------------------------
-- What is left of a run
------------------------------------------------------------

/- A step of a run, and whether it is kept. -/
structure Entry (n m : Nat) where
  step : Step n m
  kept : Bool

namespace Entry

/- The run before anything is left out. -/
def steps
    (plan : List (Entry n m)) : List (Step n m) :=
  plan.map Entry.step

/- The part that belongs to the steps that are kept. -/
def select
    {α : Type}
    (plan : List (Entry n m))
    (all : List α) : List α :=
  ((plan.zip all).filter (fun entry => entry.1.kept)).map Prod.snd

/- The run that is left. -/
def left
    (plan : List (Entry n m)) : List (Step n m) :=
  select plan (steps plan)

variable {α : Type} {e : Entry n m} {plan : List (Entry n m)}

theorem select_cons_of_kept
    (first : α)
    (rest : List α)
    (hKept : e.kept = true) :
    select (e :: plan) (first :: rest) =
      first :: select plan rest := by
  simp [select, hKept]

theorem select_cons_of_erased
    (first : α)
    (rest : List α)
    (hErased : e.kept = false) :
    select (e :: plan) (first :: rest) = select plan rest := by
  simp [select, hErased]

theorem steps_cons
    (e : Entry n m)
    (plan : List (Entry n m)) :
    steps (e :: plan) = e.step :: steps plan :=
  rfl

theorem left_cons_of_kept
    (hKept : e.kept = true) :
    left (e :: plan) = e.step :: left plan :=
  select_cons_of_kept e.step (steps plan) hKept

theorem left_cons_of_erased
    (hErased : e.kept = false) :
    left (e :: plan) = left plan :=
  select_cons_of_erased e.step (steps plan) hErased

end Entry

------------------------------------------------------------
-- Copies that are needed
------------------------------------------------------------

namespace Step

/- Whether a slot is put aside under a name. -/
def saves
    (name : String) : Step n m → Bool
  | .copy _ i (.save other) => decide (i < slotCount) && other == name
  | _ => false

/- Whether a slot is compared to what was put aside. -/
def compares
    (name : String) : Step n m → Bool
  | .copy _ i (.compare other) =>
      decide (i < slotCount) && other == name
  | _ => false

end Step

/- Whether a run compares with what it finds under a name. -/
def needsCopy
    (name : String) : List (Step n m) → Bool
  | [] => false
  | s :: rest =>
      s.compares name || !s.saves name && needsCopy name rest

/- Whether a step can be left out before some other steps. -/
def Step.erasable
    (later : List (Step n m)) : Step n m → Bool
  | .copy _ _ (.save name) => !needsCopy name later
  | s => s.inert

/- Whether each step that is not kept can be left out. -/
def erasable : List (Entry n m) → Bool
  | [] => true
  | e :: rest =>
      (e.kept || e.step.erasable (Entry.left rest)) && erasable rest

theorem needsCopy_of_compares
    {name : String}
    {s : Step n m}
    (rest : List (Step n m))
    (hCompares : s.compares name = true) :
    needsCopy name (s :: rest) = true := by
  simp [needsCopy, hCompares]

theorem needsCopy_of_not_saves
    {name : String}
    {s : Step n m}
    {rest : List (Step n m)}
    (hSaves : s.saves name = false)
    (hNeeds : needsCopy name rest = true) :
    needsCopy name (s :: rest) = true := by
  simp [needsCopy, hSaves, hNeeds]

------------------------------------------------------------
-- Benches that differ in copies
------------------------------------------------------------

namespace Bench

def withCopies
    (bench : Bench n m)
    (copies : List (String × Slot)) : Bench n m :=
  { bench with copies := copies }

/- All but the use of copies has no use for them. -/
theorem step_withCopies
    (bench : Bench n m)
    (copies : List (String × Slot))
    {s : Step n m}
    (hNoCopy : ∀ b i c, s ≠ .copy b i c) :
    (bench.withCopies copies).step s =
      ((bench.step s).1.withCopies copies, (bench.step s).2) := by
  cases s with
  | clock c => rfl
  | owner c => rfl
  | bay b c => cases c <;> rfl
  | slot b i c =>
      simp only [step, stepSlot]
      split <;> rfl
  | copy b i c => exact absurd rfl (hNoCopy b i c)
  | relation b i c =>
      simp only [step, stepRelation]
      split
      · rfl
      · cases c with
        | deviceCount => rfl
        | same d j =>
            dsimp only
            split <;> rfl
  | surface t c =>
      cases c with
      | install i code =>
          simp only [step, stepSurface]
          split <;> rfl
      | _ => rfl
  | device t h c =>
      cases hHandle : bench.resolve t h with
      | none =>
          have hOther : (bench.withCopies copies).resolve t h = none :=
            hHandle
          simp only [step, stepDevice, hHandle, hOther]
          rfl
      | some place =>
          have hOther :
              (bench.withCopies copies).resolve t h = some place :=
            hHandle
          simp only [step, stepDevice, hHandle, hOther]
          rfl

/- Nothing is put aside or compared under a number out of range. -/
theorem step_copy_outside
    (bench : Bench n m)
    (b : Fin n)
    {i : Nat}
    (c : CopyCall)
    (hIndex : ¬ i < slotCount) :
    bench.step (.copy b i c) =
      (bench, { answer := .failed (.slot (.outOfRange i)) }) := by
  simp only [step, stepCopy, Bay.index?_of_not_lt hIndex]

/-
  The bench of a run and that of what is left of it: the same
  but for the copies that were put aside, and in these as well
  if they are still needed.
-/
structure SameButCopies
    (later : List (Step n m))
    (long short : Bench n m) : Prop where
  still : long.clock.drift = id
  short_eq : short = long.withCopies short.copies
  copies :
    ∀ name,
      needsCopy name later = true →
        short.copy? name = long.copy? name

namespace SameButCopies

variable {later : List (Step n m)}
variable {long short : Bench n m} {s : Step n m}

theorem refl
    {origin : Bench n m}
    (hStill : origin.clock.drift = id)
    (later : List (Step n m)) :
    SameButCopies later origin origin where
  still := hStill
  short_eq := rfl
  copies _ _ := rfl

theorem slot_eq
    (hSame : SameButCopies later long short)
    (b : Fin n)
    (i : SlotIndex) :
    short.slot b i = long.slot b i := by
  rw [hSame.short_eq]
  rfl

theorem still_short
    (hSame : SameButCopies later long short) :
    short.clock.drift = id := by
  rw [hSame.short_eq]
  exact hSame.still

/- A step that saves nothing leaves all that is needed. -/
theorem tail
    (hSame : SameButCopies (s :: later) long short)
    (hSaves : ∀ name, s.saves name = false) :
    SameButCopies later long short where
  still := hSame.still
  short_eq := hSame.short_eq
  copies name hNeeds :=
    hSame.copies name (needsCopy_of_not_saves (hSaves name) hNeeds)

------------------------------------------------------------
-- Steps that are left out
------------------------------------------------------------

/- A copy that is put aside in the one run only. -/
theorem save
    (hSame : SameButCopies later long short)
    (b : Fin n)
    (i : SlotIndex)
    {name : String}
    (hUnneeded : needsCopy name later = false) :
    SameButCopies later (long.step (.copy b i (.save name))).1
      short := by
  rw [step_save]
  constructor
  case still => exact hSame.still
  case short_eq => exact hSame.short_eq
  case copies =>
    intro other hNeeds
    have hOther : name ≠ other := by
      rintro rfl
      rw [hUnneeded] at hNeeds
      cases hNeeds
    rw [copy?_saveCopy, if_neg hOther]
    exact hSame.copies other hNeeds

theorem erase
    (hSame : SameButCopies later long short)
    (hErasable : s.erasable later = true) :
    SameButCopies later (long.step s).1 short := by
  by_cases hSaves : ∃ b i name, s = .copy b i (.save name)
  · rcases hSaves with ⟨b, i, name, rfl⟩
    by_cases hIndex : i < slotCount
    · apply hSame.save b ⟨i, hIndex⟩
      simpa [Step.erasable] using hErasable
    · rw [step_copy_outside _ _ _ hIndex]
      exact hSame
  · have hInert : s.inert = true := by
      unfold Step.erasable at hErasable
      split at hErasable
      · rename_i b i name
        exact absurd ⟨b, i, name, rfl⟩ hSaves
      · exact hErasable
    rw [step_of_inert hSame.still hInert]
    exact hSame

------------------------------------------------------------
-- Steps that are kept
------------------------------------------------------------

theorem keep_save
    {b : Fin n}
    {i : SlotIndex}
    {name : String}
    (hSame :
      SameButCopies (.copy b i (.save name) :: later) long short) :
    SameButCopies later (long.step (.copy b i (.save name))).1
      (short.step (.copy b i (.save name))).1 := by
  rw [step_save, step_save]
  constructor
  case still => exact hSame.still
  case short_eq =>
    have hShort := hSame.short_eq
    exact congrArg
      (fun bench => bench.saveCopy name (short.slot b i)) hShort
  case copies =>
    intro other hNeeds
    rw [copy?_saveCopy, copy?_saveCopy, hSame.slot_eq]
    by_cases hName : name = other
    · rw [if_pos hName, if_pos hName]
    · rw [if_neg hName, if_neg hName]
      apply hSame.copies other
      apply needsCopy_of_not_saves _ hNeeds
      simp [Step.saves, hName]

/- What is compared is the same in both runs. -/
theorem comparison_eq
    {b : Fin n}
    {i : SlotIndex}
    {name : String}
    (hSame :
      SameButCopies (.copy b i (.compare name) :: later) long
        short) :
    (short.step (.copy b i (.compare name))).2 =
      (long.step (.copy b i (.compare name))).2 := by
  have hNeeds :
      needsCopy name (.copy b i (.compare name) :: later) = true := by
    apply needsCopy_of_compares
    simp [Step.compares]
  simp only [step, stepCopy, Bay.index?_of_lt i.isLt,
    hSame.copies name hNeeds, hSame.slot_eq]
  cases long.copy? name <;> rfl

theorem keep_other
    (hSame : SameButCopies (s :: later) long short)
    (hNoCopy : ∀ b i c, s ≠ .copy b i c) :
    (short.step s).2 = (long.step s).2 ∧
      SameButCopies later (long.step s).1 (short.step s).1 := by
  have hNoSave (bench : Bench n m) :
      (bench.step s).1.copy? = bench.copy? := by
    apply copy?_of_no_save
    intro place name hVisit
    exact hNoCopy _ _ _ (eq_copy_of_visit? hVisit)
  have hStep := long.step_withCopies short.copies hNoCopy
  rw [← hSame.short_eq] at hStep
  refine ⟨by rw [hStep], ?_⟩
  constructor
  case still => exact (step_drift _ s).trans hSame.still
  case short_eq =>
    rw [hStep]
    rfl
  case copies =>
    intro name hNeeds
    rw [hNoSave, hNoSave]
    apply hSame.copies name
    apply needsCopy_of_not_saves _ hNeeds
    cases s
    case copy b i c => exact absurd rfl (hNoCopy b i c)
    all_goals rfl

/- A step that is kept shows the same, and both benches keep up. -/
theorem keep
    (hSame : SameButCopies (s :: later) long short) :
    (short.step s).2 = (long.step s).2 ∧
      SameButCopies later (long.step s).1 (short.step s).1 := by
  by_cases hCopy : ∃ b i c, s = .copy b i c
  · rcases hCopy with ⟨b, i, c, rfl⟩
    by_cases hIndex : i < slotCount
    · cases c with
      | save name =>
          refine ⟨?_, hSame.keep_save (i := ⟨i, hIndex⟩)⟩
          rw [short.step_save b ⟨i, hIndex⟩,
            long.step_save b ⟨i, hIndex⟩]
      | compare name =>
          refine ⟨hSame.comparison_eq (i := ⟨i, hIndex⟩), ?_⟩
          rw [step_of_inert hSame.still rfl,
            step_of_inert hSame.still_short rfl]
          exact hSame.tail (fun _ => rfl)
    · rw [step_copy_outside _ _ _ hIndex,
        step_copy_outside _ _ _ hIndex]
      refine ⟨rfl, hSame.tail ?_⟩
      intro name
      cases c with
      | save other => simp [Step.saves, hIndex]
      | compare other => rfl
  · apply hSame.keep_other
    intro b i c hStep
    exact hCopy ⟨b, i, c, hStep⟩

------------------------------------------------------------
-- Runs
------------------------------------------------------------

/- What is left of a run shows what the run shows there. -/
theorem run
    {plan : List (Entry n m)}
    (hSame : SameButCopies (Entry.left plan) long short)
    (hErasable : erasable plan = true) :
    (short.run (Entry.left plan)).2 =
        Entry.select plan (long.run (Entry.steps plan)).2 ∧
      SameButCopies [] (long.run (Entry.steps plan)).1
        (short.run (Entry.left plan)).1 := by
  induction plan generalizing long short with
  | nil => exact ⟨rfl, hSame⟩
  | cons e rest ih =>
      rcases (Bool.and_eq_true _ _).mp hErasable with
        ⟨hHere, hRest⟩
      cases hKept : e.kept with
      | true =>
          rw [Entry.left_cons_of_kept hKept] at hSame ⊢
          rcases hSame.keep with ⟨hOutcome, hNext⟩
          rcases ih hNext hRest with ⟨hOutcomes, hLast⟩
          refine ⟨?_, hLast⟩
          rw [Entry.steps_cons, Bench.run, Bench.run,
            Entry.select_cons_of_kept _ _ hKept]
          exact congrArg₂ List.cons hOutcome hOutcomes
      | false =>
          rw [hKept, Bool.false_or] at hHere
          rw [Entry.left_cons_of_erased hKept] at hSame ⊢
          rcases ih (hSame.erase hHere) hRest with
            ⟨hOutcomes, hLast⟩
          refine ⟨?_, hLast⟩
          rw [Entry.steps_cons, Bench.run,
            Entry.select_cons_of_erased _ _ hKept]
          exact hOutcomes

end SameButCopies

------------------------------------------------------------
-- Radios
------------------------------------------------------------

/-
  What a link answers that never finds a partner: there is
  nothing to read and no room to write, and a buffer stays as
  it is. A call that has to move bytes fails, unless there are
  none to move.
-/
structure Partnerless
    (answer : RadioCall → Answer) : Prop where
  unreadBytes : answer .unreadBytes = .value (.nat 0)
  receiveFree : answer .receiveFree = .value (.nat 0)
  availableWriteBytes :
    answer .availableWriteBytes = .value (.nat 0)
  isLinked : answer .isLinked = .value (.bool false)
  flush : answer .flush = .value .unit
  write (bytes : List UInt8) :
    answer (.write bytes) = .value (.nat 0)
  writeAll (bytes : List UInt8) :
    answer (.writeAll bytes) =
      if bytes = [] then
        .value .unit
      else
        .failed (.transfer .nothingWritten)
  read (buffer : List UInt8) :
    answer (.read buffer) = .value (.received ⟨0, buffer⟩)
  readExact (buffer : List UInt8) :
    answer (.readExact buffer) =
      if buffer = [] then
        .value .unit
      else
        .failed (.transfer .unexpectedEnd)
  readToEnd (buffer : List UInt8) :
    answer (.readToEnd buffer) = .value (.received ⟨0, buffer⟩)

/- What a raw surface answers of it, with a code in its error cell. -/
structure RawPartnerless
    (errno : Errno)
    (answer : RawRadioCall → Answer) : Prop where
  receiveAvailable :
    answer .receiveAvailable = .raw (.nat 0) errno
  receiveFree : answer .receiveFree = .raw (.nat 0) errno
  connection (id : String) (linkType : Int32) (replace : Bool) :
    answer (.connection id linkType replace) = .raw .unit errno
  linkStatus : answer .linkStatus = .raw (.bool false) errno
  writeFree : answer .writeFree = .raw (.int 0) errno
  transmit (bytes : List UInt8) :
    answer (.transmit bytes) = .raw (.int 0) errno
  receive (buffer : List UInt8) :
    answer (.receive buffer) = .raw (.codedBytes 0 buffer) errno

theorem answer_radio
    (bench : Bench n m)
    (b : Fin n)
    (i : SlotIndex)
    (id : String)
    (role : LinkRole)
    (c : RadioCall) :
    (bench.step (.slot b i (.link id role (.radio c)))).2.answer =
      .ofResult ((c.answer.map c.value).mapError .transfer) := by
  rw [stepSlot_eq rfl]
  rfl

theorem partnerless
    (bench : Bench n m)
    (b : Fin n)
    (i : SlotIndex)
    (id : String)
    (role : LinkRole) :
    Partnerless (fun c =>
      (bench.step
        (.slot b i (.link id role (.radio c)))).2.answer) := by
  constructor
  case writeAll =>
    intro bytes
    rw [answer_radio]
    cases bytes <;> rfl
  case readExact =>
    intro buffer
    rw [answer_radio]
    cases buffer <;> rfl
  all_goals intros
  all_goals exact answer_radio bench b i id role _

theorem answer_rawRadio
    {bench : Bench n m}
    {t : Fin m}
    {h : Handle n}
    {b : Fin n}
    {i : SlotIndex}
    (hHandle : bench.resolve t h = some (b, i))
    (c : RawRadioCall) :
    (bench.step (.device t h (.radio c))).2.answer =
      .raw c.value (bench.surface t).errno := by
  rw [stepDevice_eq hHandle rfl]
  rfl

theorem rawPartnerless
    {bench : Bench n m}
    {t : Fin m}
    {h : Handle n}
    {b : Fin n}
    {i : SlotIndex}
    (hHandle : bench.resolve t h = some (b, i)) :
    RawPartnerless (bench.surface t).errno (fun c =>
      (bench.step (.device t h (.radio c))).2.answer) := by
  constructor
  all_goals intros
  all_goals exact answer_rawRadio hHandle _

------------------------------------------------------------
-- Reads can be erased
------------------------------------------------------------

/-
  If the clock stands still, then each subset of the inert
  steps of a run can be left out, and each copy that no step
  that is left compares with. What is left of the run shows at
  each step what the run shows there, error cells included, and
  leaves the whole bench the same except for copies that were
  put aside. A radio answers as one without a partner, on all
  benches, whatever is in the slot and in the error cell.
-/
theorem reads_can_be_erased
    {origin : Bench n m}
    (hStill : origin.clock.drift = id)
    {plan : List (Entry n m)}
    (hErasable : erasable plan = true) :
    let long := origin.run (Entry.steps plan)
    let short := origin.run (Entry.left plan)
    short.2 = Entry.select plan long.2 ∧
    short.1 = long.1.withCopies short.1.copies ∧
    (∀ b i, short.1.slot b i = long.1.slot b i) ∧
    (∀ (bench : Bench n m) (b : Fin n) (i : SlotIndex) id role,
      Partnerless (fun c =>
        (bench.step
          (.slot b i (.link id role (.radio c)))).2.answer)) ∧
    (∀ (bench : Bench n m) t h place,
      bench.resolve t h = some place →
        RawPartnerless (bench.surface t).errno (fun c =>
          (bench.step (.device t h (.radio c))).2.answer)) := by
  intro long short
  rcases (SameButCopies.refl hStill _).run hErasable with
    ⟨hOutcomes, hLast⟩
  refine ⟨hOutcomes, hLast.short_eq, hLast.slot_eq,
    partnerless, ?_⟩
  intro bench t h place hHandle
  exact rawPartnerless hHandle

/- A copy that is put aside anew before it is compared with. -/
theorem reads_can_be_erased_copied :
    let origin : Bench 1 1 :=
      fresh (.manual ⟨7⟩) (Vector.replicate 1 {}) #v[0]
    let plan : List (Entry 1 1) :=
      [⟨.slot 0 2 (.presence (.plugIn .motor)), true⟩,
        ⟨.copy 0 2 (.save "motor"), false⟩,
        ⟨.slot 0 2 (.motor (.tell (.setVelocity 100))), true⟩,
        ⟨.slot 0 2 (.motor (.ask .velocity)), false⟩,
        ⟨.slot 0 2 (.link "" .worker (.radio (.write [1]))), false⟩,
        ⟨.copy 0 2 (.save "motor"), true⟩,
        ⟨.copy 0 2 (.compare "motor"), true⟩]
    erasable plan = true ∧
    (origin.run (Entry.left plan)).2 =
      Entry.select plan (origin.run (Entry.steps plan)).2 ∧
    ∀ b i,
      (origin.run (Entry.left plan)).1.slot b i =
        (origin.run (Entry.steps plan)).1.slot b i := by
  intro origin plan
  have hStill : origin.clock.drift = id := rfl
  have hErasable : erasable plan = true := by
    decide +kernel
  have hErased := reads_can_be_erased hStill hErasable
  exact ⟨hErasable, hErased.1, hErased.2.2.1⟩

end Bench

end DeviceBay
