import DeviceBay.Proofs.Bench.Restamped
import DeviceBay.Proofs.Bench.Timestamps
import Mathlib.Logic.Function.Basic

/-
  This file proves that to install a device is to forget. Two
  slots into which the same device was just put, on benches
  with the same clock, settings and owners, can be told apart
  by nothing but their timestamps, whatever they held before,
  and by nothing at all once a write has been made, copies of
  the slots aside.

  Key definitions include:
    * `Progress`
    * `Progress.tells`
    * `Moment.Common`
    * `Moment.Echoes`
    * `Bench.Mirrors`

  Main declarations:
    * `Bench.Mirrors.use`
    * `Bench.Mirrors.run`
    * `Bench.Mirrors.echoes`
    * `Bench.installing_forgets`
-/

namespace DeviceBay

------------------------------------------------------------
-- Progress
------------------------------------------------------------

/-
  What matters of a continuation so far: whether a write has
  stamped the slot, and for each name under which the slot was
  put aside, whether that was after such a write.
-/
structure Progress where
  stamped : Bool := false
  saved : String → Option Bool := fun _ => none

namespace Progress

variable {n m : Nat}

def after
    (b : Fin n)
    (i : SlotIndex)
    (progress : Progress)
    (x : Moment n m) : Progress where
  stamped := progress.stamped || (x.stamp? b i).isSome
  saved :=
    match x.bench.visit? x.step with
    | some (_, .save name) =>
        Function.update progress.saved name
          (some progress.stamped)
    | _ => progress.saved

def through
    (b : Fin n)
    (i : SlotIndex)
    (moments : List (Moment n m)) : Progress :=
  moments.foldl (after b i) {}

/-
  Whether the answer to a use may tell the timestamps apart:
  one that reports the timestamp, until the first write, and
  one that compares the slot to a copy, unless the copy is of
  this continuation and on the same side of the first write.
-/
def tells
    (progress : Progress) : SlotUse → Bool
  | .compare name => progress.saved name != some progress.stamped
  | u => u.reportsStamp && !progress.stamped

/- Only what is addressed to a slot counts as progress. -/
theorem after_of_unvisited
    (b : Fin n)
    (i : SlotIndex)
    (progress : Progress)
    {x : Moment n m}
    (hVisit : x.bench.visit? x.step = none) :
    progress.after b i x = progress := by
  have hTarget := Bench.target?_of_visit? hVisit
  have hStamp : x.stamp? b i = none := by
    simp [Moment.stamp?, Moment.callOn?, Bench.callOn?, hTarget]
  simp [after, hVisit, hStamp]

end Progress

------------------------------------------------------------
-- Common continuations
------------------------------------------------------------

namespace Moment

variable {n m k l : Nat}

/-
  Moments of two runs at which the same is done: to the clock,
  to the owners of tuning constants, or to one slot of each.
-/
inductive Common
    (b : Fin n)
    (d : Fin k)
    (i : SlotIndex) : Moment n m → Moment k l → Prop
  | clock (x : Bench n m) (y : Bench k l) (c : ClockStep) :
      Common b d i ⟨x, .clock c⟩ ⟨y, .clock c⟩
  | owner (x : Bench n m) (y : Bench k l) (c : OwnerStep) :
      Common b d i ⟨x, .owner c⟩ ⟨y, .owner c⟩
  | use (x : Bench n m) (y : Bench k l) (s : Step n m)
      (t : Step k l) (u : SlotUse)
      (hLeft : x.visit? s = some ((b, i), u))
      (hRight : y.visit? t = some ((d, i), u)) :
      Common b d i ⟨x, s⟩ ⟨y, t⟩

/-
  Moments that show the same, but for answers that may tell the
  timestamps of the slots apart. Even these fail alike, and a
  comparison to a copy of the slot as it was some time in the
  continuation is the same as far as the state goes.
-/
structure Echoes
    (b : Fin n)
    (i : SlotIndex)
    (progress : Progress)
    (x : Moment n m)
    (y : Moment k l) : Prop where
  readings : y.outcome.readings = x.outcome.readings
  events : y.outcome.events = x.outcome.events
  failure :
    (y.bench.failure? y.step).map Prod.snd =
      (x.bench.failure? x.step).map Prod.snd
  verdict :
    y.outcome.answer.said?.map verdict =
      x.outcome.answer.said?.map verdict
  said :
    (∀ u,
      x.bench.visit? x.step = some ((b, i), u) →
        progress.tells u = false) →
      y.outcome.answer.said? = x.outcome.answer.said?
  compared :
    ∀ name,
      x.bench.visit? x.step = some ((b, i), .compare name) →
      progress.saved name ≠ none →
        ∃ left right same,
          x.outcome.answer.said? =
              some (.ok (.comparison left same)) ∧
            y.outcome.answer.said? =
              some (.ok (.comparison right same))

end Moment

------------------------------------------------------------
-- Copies
------------------------------------------------------------

/-
  Copies of two slots that were put aside together, `late` if
  that was after a write.
-/
structure Copied
    (stamped late : Bool)
    (a b left right : Slot) : Prop where
  same : left.SameButStamp right
  equal : late = true → right = left
  order : late = true → stamped = true
  fresh :
    stamped = false →
      left.timestamp = a.timestamp ∧ right.timestamp = b.timestamp

namespace Copied

variable {stamped late : Bool} {a b left right : Slot}

theorem of_slots
    (hSame : a.SameButStamp b)
    (hStamped : stamped = true → b = a) :
    Copied stamped stamped a b a b where
  same := hSame
  equal := hStamped
  order hLate := hLate
  fresh _ := ⟨rfl, rfl⟩

/- Unless a write stamps the slots, copies stay fresh. -/
theorem after
    (hCopied : Copied stamped late a b left right)
    {a' b' : Slot}
    {write : Bool}
    (hKept :
      write = false →
        a'.timestamp = a.timestamp ∧ b'.timestamp = b.timestamp) :
    Copied (stamped || write) late a' b' left right where
  same := hCopied.same
  equal := hCopied.equal
  order hLate := by rw [hCopied.order hLate, Bool.true_or]
  fresh hFresh := by
    rcases (Bool.or_eq_false_iff).mp hFresh with ⟨hOld, hNew⟩
    rw [(hKept hNew).1, (hKept hNew).2]
    exact hCopied.fresh hOld

/- The half of a comparison that is about the state. -/
theorem state_eqv
    (hCopied : Copied stamped late a b left right)
    (hSame : a.SameButStamp b) :
    right.state.eqv b.state = left.state.eqv a.state := by
  rw [hCopied.same.state, hSame.state]

theorem eqv
    (hCopied : Copied stamped late a b left right)
    (hSame : a.SameButStamp b)
    (hStamped : stamped = true → b = a)
    (hTime : late = stamped) :
    right.eqv b = left.eqv a := by
  cases hLate : late with
  | true =>
      rw [hCopied.equal hLate, hStamped (hTime.symm.trans hLate)]
  | false =>
      rcases hCopied.fresh (hTime.symm.trans hLate) with
        ⟨hLeft, hRight⟩
      simp only [Slot.eqv, hCopied.same.index, hSame.index,
        hCopied.same.present, hSame.present,
        hCopied.same.deviceType, hSame.deviceType,
        hCopied.same.state, hSame.state, hLeft, hRight,
        beq_self_eq_true]

end Copied

------------------------------------------------------------
-- Two benches side by side
------------------------------------------------------------

namespace Bench

variable {n m k l : Nat}

/- Two benches that put two slots aside together under a name. -/
def BothHold
    (x : Bench n m)
    (y : Bench k l)
    (name : String)
    (stamped late : Bool)
    (a b : Slot) : Prop :=
  ∃ left right,
    x.copy? name = some left ∧
      y.copy? name = some right ∧
      Copied stamped late a b left right

/-
  Two benches that cannot be told apart from one slot of each,
  but for the timestamps and what was put aside before.
-/
structure Mirrors
    (b : Fin n)
    (d : Fin k)
    (i : SlotIndex)
    (progress : Progress)
    (x : Bench n m)
    (y : Bench k l) : Prop where
  coherent : x.Coherent
  config : (y.bay d).config = (x.bay b).config
  clock : y.clock = x.clock
  owners : y.owners = x.owners
  slot : (x.slot b i).SameButStamp (y.slot d i)
  stamped : progress.stamped = true → y.slot d i = x.slot b i
  copies :
    ∀ name late,
      progress.saved name = some late →
        x.BothHold y name progress.stamped late (x.slot b i)
          (y.slot d i)

namespace Mirrors

variable {b : Fin n} {d : Fin k} {i : SlotIndex}
variable {progress : Progress}
variable {x : Bench n m} {y : Bench k l}
variable {s : Step n m} {t : Step k l} {u : SlotUse}

theorem env_eq
    (hMirrors : Mirrors b d i progress x y) :
    y.env d = x.env b := by
  rw [env, env, hMirrors.config, hMirrors.owners]

------------------------------------------------------------
-- A use of both slots
------------------------------------------------------------

theorem effectOn_eq
    (hMirrors : Mirrors b d i progress x y)
    (hLeft : x.visit? s = some ((b, i), u))
    (hRight : y.visit? t = some ((d, i), u)) :
    y.effectOn d i t = x.effectOn b i s := by
  rw [effectOn_of_visit? hLeft, effectOn_of_visit? hRight,
    hMirrors.env_eq, hMirrors.clock]
  cases u.call? with
  | none => rfl
  | some c =>
      exact c.effect_sameButStamp hMirrors.slot (x.env b) x.clock

/- After a write there is nothing left to tell the slots apart. -/
theorem slot_of_stamped
    (hMirrors : Mirrors b d i progress x y)
    (hLeft : x.visit? s = some ((b, i), u))
    (hRight : y.visit? t = some ((d, i), u))
    (hStamped :
      (progress.stamped ||
        (Moment.stamp? b i ⟨x, s⟩).isSome) = true) :
    (y.step t).1.slot d i = (x.step s).1.slot b i := by
  rw [step_slot, step_slot, hMirrors.effectOn_eq hLeft hRight]
  rcases (Bool.or_eq_true_iff).mp hStamped with hOld | hNew
  · rw [hMirrors.stamped hOld]
  · rw [Moment.stamp?_eq hMirrors.coherent] at hNew
    rcases Option.isSome_iff_exists.mp hNew with ⟨time, hTime⟩
    exact Effect.apply_eq_of_stamp? hMirrors.slot hTime

/- Without a write the timestamps stay as they were. -/
theorem timestamps_of_unstamped
    (hMirrors : Mirrors b d i progress x y)
    (hLeft : x.visit? s = some ((b, i), u))
    (hRight : y.visit? t = some ((d, i), u))
    (hUnstamped : (Moment.stamp? b i ⟨x, s⟩).isSome = false) :
    ((x.step s).1.slot b i).timestamp =
        (x.slot b i).timestamp ∧
      ((y.step t).1.slot d i).timestamp =
        (y.slot d i).timestamp := by
  rw [Moment.stamp?_eq hMirrors.coherent,
    Option.isSome_eq_false_iff, Option.isNone_iff_eq_none]
    at hUnstamped
  rw [step_slot, step_slot, hMirrors.effectOn_eq hLeft hRight,
    Effect.apply_timestamp, Effect.apply_timestamp,
    Effect.stamp?_sameButStamp hMirrors.slot, hUnstamped]
  exact ⟨rfl, rfl⟩

/- What is put aside of both slots is put aside together. -/
theorem copies_of_save
    (hMirrors : Mirrors b d i progress x y)
    {name other : String}
    {late : Bool}
    (hLeft : x.visit? s = some ((b, i), .save name))
    (hRight : y.visit? t = some ((d, i), .save name))
    (hSaved :
      (progress.after b i ⟨x, s⟩).saved other = some late) :
    (x.step s).1.BothHold (y.step t).1 other progress.stamped
      late (x.slot b i) (y.slot d i) := by
  simp only [Progress.after, hLeft] at hSaved
  rw [BothHold, copy?_of_save hLeft, copy?_of_save hRight]
  by_cases hName : name = other
  · subst hName
    rw [Function.update_self] at hSaved
    cases hSaved
    rw [if_pos rfl, if_pos rfl]
    exact ⟨_, _, rfl, rfl,
      Copied.of_slots hMirrors.slot hMirrors.stamped⟩
  · rw [Function.update_of_ne (Ne.symm hName)] at hSaved
    rw [if_neg hName, if_neg hName]
    exact hMirrors.copies other late hSaved

theorem copies_of_no_save
    (hMirrors : Mirrors b d i progress x y)
    {name : String}
    {late : Bool}
    (hLeft : x.visit? s = some ((b, i), u))
    (hRight : y.visit? t = some ((d, i), u))
    (hNoSave : ∀ saved, u ≠ .save saved)
    (hSaved :
      (progress.after b i ⟨x, s⟩).saved name = some late) :
    (x.step s).1.BothHold (y.step t).1 name progress.stamped
      late (x.slot b i) (y.slot d i) := by
  have hLeftKept : (x.step s).1.copy? = x.copy? := by
    apply copy?_of_no_save
    intro place saved hSave
    rw [hLeft] at hSave
    cases hSave
    exact hNoSave saved rfl
  have hRightKept : (y.step t).1.copy? = y.copy? := by
    apply copy?_of_no_save
    intro place saved hSave
    rw [hRight] at hSave
    cases hSave
    exact hNoSave saved rfl
  rw [BothHold, hLeftKept, hRightKept]
  apply hMirrors.copies
  simp only [Progress.after, hLeft] at hSaved
  cases u
  case save saved => exact absurd rfl (hNoSave saved)
  all_goals exact hSaved

theorem use
    (hMirrors : Mirrors b d i progress x y)
    (hLeft : x.visit? s = some ((b, i), u))
    (hRight : y.visit? t = some ((d, i), u)) :
    Mirrors b d i (progress.after b i ⟨x, s⟩) (x.step s).1
      (y.step t).1 := by
  have hLeftVisits := visits_of_visit? hLeft
  have hRightVisits := visits_of_visit? hRight
  have hAgrees :=
    u.run_agrees hMirrors.slot (x.env b) x.clock x.copy? y.copy?
  rw [hMirrors.env_eq, hMirrors.clock] at hRightVisits
  have hKept :=
    hMirrors.timestamps_of_unstamped hLeft hRight
  constructor
  case coherent => exact step_coherent hMirrors.coherent s
  case config =>
    rw [step_config, step_config]
    exact hMirrors.config
  case clock =>
    rw [hLeftVisits.clock, hRightVisits.clock, hAgrees.clock]
  case owners =>
    rw [owners_of_visit? hLeft, owners_of_visit? hRight]
    exact hMirrors.owners
  case slot =>
    rw [hLeftVisits.slot, hRightVisits.slot]
    exact hAgrees.slot
  case stamped => exact hMirrors.slot_of_stamped hLeft hRight
  case copies =>
    intro name late hSaved
    have hCopies :
        (x.step s).1.BothHold (y.step t).1 name progress.stamped
          late (x.slot b i) (y.slot d i) := by
      by_cases hSaves : ∃ saved, u = .save saved
      · rcases hSaves with ⟨saved, rfl⟩
        exact hMirrors.copies_of_save hLeft hRight hSaved
      · have hNoSave (saved : String) : u ≠ .save saved :=
          fun hSave => hSaves ⟨saved, hSave⟩
        exact hMirrors.copies_of_no_save hLeft hRight hNoSave hSaved
    rcases hCopies with ⟨left, right, hOne, hOther, hCopied⟩
    exact ⟨left, right, hOne, hOther, hCopied.after hKept⟩

------------------------------------------------------------
-- A step and a run of both benches
------------------------------------------------------------

theorem step
    (hMirrors : Mirrors b d i progress x y)
    (hCommon : Moment.Common b d i ⟨x, s⟩ ⟨y, t⟩) :
    Mirrors b d i (progress.after b i ⟨x, s⟩) (x.step s).1
      (y.step t).1 := by
  cases hCommon with
  | clock _ _ c =>
      rw [progress.after_of_unvisited b i rfl]
      have hClock :=
        congrArg (fun clock => c.apply clock) hMirrors.clock
      exact { hMirrors with clock := hClock }
  | owner _ _ c =>
      rw [progress.after_of_unvisited b i rfl]
      have hOwners :=
        congrArg (fun owners => (c.apply owners).2) hMirrors.owners
      exact { hMirrors with owners := hOwners }
  | use _ _ _ _ u hLeft hRight => exact hMirrors.use hLeft hRight

theorem run
    (hMirrors : Mirrors b d i progress x y)
    {left : List (Step n m)}
    {right : List (Step k l)}
    (hCommon :
      List.Forall₂ (Moment.Common b d i) (x.moments left)
        (y.moments right)) :
    Mirrors b d i ((x.moments left).foldl (Progress.after b i) progress)
      (x.run left).1 (y.run right).1 := by
  induction left generalizing right progress x y with
  | nil =>
      cases right with
      | nil => exact hMirrors
      | cons t rest => cases hCommon
  | cons s left ih =>
      cases right with
      | nil => cases hCommon
      | cons t right =>
          cases hCommon with
          | cons hHead hRest => exact ih (hMirrors.step hHead) hRest

------------------------------------------------------------
-- What both benches show
------------------------------------------------------------

theorem slot_eq_of_silent
    (hMirrors : Mirrors b d i progress x y)
    (hNoCompare : ∀ name, u ≠ .compare name)
    (hSilent : progress.tells u = false) :
    u.reportsStamp = false ∨ y.slot d i = x.slot b i := by
  have hTells : (u.reportsStamp && !progress.stamped) = false := by
    cases u
    case compare name => exact absurd rfl (hNoCompare name)
    all_goals exact hSilent
  rcases (Bool.and_eq_false_iff).mp hTells with hReports | hStamped
  · exact Or.inl hReports
  · rw [Bool.not_eq_false'] at hStamped
    exact Or.inr (hMirrors.stamped hStamped)

/- A comparison to a copy that was put aside meanwhile. -/
theorem comparison_eq
    (hMirrors : Mirrors b d i progress x y)
    {name : String}
    {late : Bool}
    (hSaved : progress.saved name = some late) :
    ∃ left right same,
      SlotUse.comparison (x.slot b i) (x.copy? name) =
          .comparison left same ∧
        SlotUse.comparison (y.slot d i) (y.copy? name) =
          .comparison right same ∧
        (late = progress.stamped → right = left) := by
  rcases hMirrors.copies name late hSaved with
    ⟨left, right, hLeft, hRight, hCopied⟩
  refine ⟨left.eqv (x.slot b i), right.eqv (y.slot d i),
    left.state.eqv (x.slot b i).state, ?_, ?_, ?_⟩
  · rw [hLeft, SlotUse.comparison]
  · rw [hRight, SlotUse.comparison,
      hCopied.state_eqv hMirrors.slot]
  · exact hCopied.eqv hMirrors.slot hMirrors.stamped

theorem result_of_silent
    (hMirrors : Mirrors b d i progress x y)
    (hSilent : progress.tells u = false) :
    (u.run (x.env b) x.clock (y.slot d i) y.copy?).result =
      (u.run (x.env b) x.clock (x.slot b i) x.copy?).result := by
  by_cases hCompares : ∃ name, u = .compare name
  · rcases hCompares with ⟨name, rfl⟩
    have hSaved : progress.saved name = some progress.stamped := by
      simpa [Progress.tells] using hSilent
    rcases hMirrors.comparison_eq hSaved with
      ⟨left, right, same, hLeft, hRight, hEq⟩
    simp only [SlotUse.run, Reply.still, hLeft, hRight, hEq rfl]
  · have hNoCompare (name : String) : u ≠ .compare name :=
      fun hCompare => hCompares ⟨name, hCompare⟩
    rcases hMirrors.slot_eq_of_silent hNoCompare hSilent with
      hReports | hSlot
    · have hAgrees :=
        u.run_agrees hMirrors.slot (x.env b) x.clock x.copy? y.copy?
      exact hAgrees.result hReports
    · rw [hSlot]
      apply congrArg Reply.result
      apply SlotUse.run_of_copies
      intro name hCompare
      exact absurd hCompare (hNoCompare name)

theorem echoes_of_use
    (hMirrors : Mirrors b d i progress x y)
    (hLeft : x.visit? s = some ((b, i), u))
    (hRight : y.visit? t = some ((d, i), u)) :
    Moment.Echoes b i progress ⟨x, s⟩ ⟨y, t⟩ := by
  have hLeftShown := (visits_of_visit? hLeft).shown
  have hRightShown := (visits_of_visit? hRight).shown
  have hAgrees :=
    u.run_agrees hMirrors.slot (x.env b) x.clock x.copy? y.copy?
  rw [hMirrors.env_eq, hMirrors.clock] at hRightShown
  have hLeftSaid :
      (x.step s).2.answer.said? = some _ :=
    congrArg Shown.said hLeftShown
  have hRightSaid :
      (y.step t).2.answer.said? = some _ :=
    congrArg Shown.said hRightShown
  constructor
  case readings =>
    calc
      (y.step t).2.readings
          = _ := congrArg Shown.readings hRightShown
      _ = _ := hAgrees.readings
      _ = (x.step s).2.readings :=
          (congrArg Shown.readings hLeftShown).symm
  case events =>
    calc
      (y.step t).2.events
          = _ := congrArg Shown.events hRightShown
      _ = _ := hAgrees.events
      _ = (x.step s).2.events :=
          (congrArg Shown.events hLeftShown).symm
  case failure =>
    dsimp only
    rw [failure?_of_visit? hLeft, failure?_of_visit? hRight]
    cases u with
    | raw c => exact c.failure?_sameButStamp hMirrors.slot
    | _ => rfl
  case verdict =>
    simp only [Moment.outcome, hLeftSaid, hRightSaid,
      Option.map_some, hAgrees.verdict]
  case said =>
    intro hSilent
    have hResult := hMirrors.result_of_silent (hSilent u hLeft)
    simp only [Moment.outcome, hLeftSaid, hRightSaid, hResult]
  case compared =>
    intro name hCompares hSaved
    have hUse : u = .compare name := by
      rw [hLeft] at hCompares
      cases hCompares
      rfl
    subst hUse
    rcases Option.ne_none_iff_exists'.mp hSaved with
      ⟨late, hLate⟩
    rcases hMirrors.comparison_eq hLate with
      ⟨left, right, same, hOne, hOther, _⟩
    refine ⟨left, right, same, ?_, ?_⟩
    · simp only [Moment.outcome, hLeftSaid, SlotUse.run,
        Reply.still, hOne]
    · simp only [Moment.outcome, hRightSaid, SlotUse.run,
        Reply.still, hOther]

/- Whatever both benches do next shows the same in both. -/
theorem echoes
    (hMirrors : Mirrors b d i progress x y)
    (hCommon : Moment.Common b d i ⟨x, s⟩ ⟨y, t⟩) :
    Moment.Echoes b i progress ⟨x, s⟩ ⟨y, t⟩ := by
  cases hCommon with
  | clock _ _ c => exact ⟨rfl, rfl, rfl, rfl, fun _ => rfl, nofun⟩
  | owner _ _ c =>
      have hSaid :
          (y.step (.owner c)).2.answer.said? =
            (x.step (.owner c)).2.answer.said? :=
        congrArg
          (fun owners =>
            some (Except.ok (c.apply owners).1 : Except Failure Value))
          hMirrors.owners
      exact ⟨rfl, rfl, rfl, congrArg _ hSaid, fun _ => hSaid, nofun⟩
  | use _ _ _ _ u hLeft hRight =>
      exact hMirrors.echoes_of_use hLeft hRight

------------------------------------------------------------
-- Installing
------------------------------------------------------------

/- An installation leaves a slot as any other of its kind does. -/
theorem sameButStamp_of_installs
    {a b : Slot}
    {c : PresenceCall}
    (hIndex : b.index = a.index)
    (hPresent :
      (∃ type, c = .plugIn type) ∨ b.present = a.present)
    (hInstalls : (SlotCall.presence c).installs = true) :
    (c.apply a).SameButStamp (c.apply b) := by
  cases c with
  | connect => cases hInstalls
  | disconnect => cases hInstalls
  | plugIn type => exact ⟨hIndex, rfl, rfl, rfl⟩
  | install type =>
      rcases hPresent with ⟨other, hPlugIn⟩ | hPresent
      · cases hPlugIn
      · exact ⟨hIndex, hPresent, rfl, rfl⟩

theorem of_install
    {c : PresenceCall}
    (hLeftBench : x.Coherent)
    (hRightBench : y.Coherent)
    (hConfig : (y.bay d).config = (x.bay b).config)
    (hClock : y.clock = x.clock)
    (hOwners : y.owners = x.owners)
    (hPresent :
      (∃ type, c = .plugIn type) ∨
        (y.slot d i).present = (x.slot b i).present)
    (hInstalls : (SlotCall.presence c).installs = true)
    (hLeft : x.visit? s = some ((b, i), .call (.presence c)))
    (hRight : y.visit? t = some ((d, i), .call (.presence c))) :
    Mirrors b d i {} (x.step s).1 (y.step t).1 := by
  have hLeftVisits := visits_of_visit? hLeft
  have hRightVisits := visits_of_visit? hRight
  have hIndex : (y.slot d i).index = (x.slot b i).index :=
    (hRightBench d i).index.trans (hLeftBench b i).index.symm
  constructor
  case coherent => exact step_coherent hLeftBench s
  case config =>
    rw [step_config, step_config]
    exact hConfig
  case clock =>
    rw [hLeftVisits.clock, hRightVisits.clock]
    exact hClock
  case owners =>
    rw [owners_of_visit? hLeft, owners_of_visit? hRight]
    exact hOwners
  case slot =>
    rw [hLeftVisits.slot, hRightVisits.slot]
    exact sameButStamp_of_installs hIndex hPresent hInstalls
  case stamped => exact nofun
  case copies => exact nofun

end Mirrors

------------------------------------------------------------
-- Forgetting
------------------------------------------------------------

/-
  After the same device was put into one slot of each of two
  benches with the same clock, settings and owners, the slots
  never differ in more than their timestamps, and not at all
  after the first write. Whatever is done to both shows the
  same, unless it reports the timestamp before that write, or
  compares the slot to a copy from before the installation, or
  from between the installation and a write since.
-/
theorem installing_forgets
    {x : Bench n m}
    {y : Bench k l}
    {b : Fin n}
    {d : Fin k}
    {i : SlotIndex}
    {s : Step n m}
    {t : Step k l}
    {c : PresenceCall}
    (hLeftBench : x.Reachable)
    (hRightBench : y.Reachable)
    (hConfig : (y.bay d).config = (x.bay b).config)
    (hClock : y.clock = x.clock)
    (hOwners : y.owners = x.owners)
    (hPresent :
      (∃ type, c = .plugIn type) ∨
        (y.slot d i).present = (x.slot b i).present)
    (hInstalls : (SlotCall.presence c).installs = true)
    (hLeft : x.visit? s = some ((b, i), .call (.presence c)))
    (hRight : y.visit? t = some ((d, i), .call (.presence c)))
    {left : List (Step n m)}
    {right : List (Step k l)}
    (hCommon :
      List.Forall₂ (Moment.Common b d i)
        ((x.step s).1.moments left)
        ((y.step t).1.moments right)) :
    let progress :=
      Progress.through b i ((x.step s).1.moments left)
    let v := ((x.step s).1.run left).1
    let w := ((y.step t).1.run right).1
    (v.slot b i).SameButStamp (w.slot d i) ∧
    (progress.stamped = true → w.slot d i = v.slot b i) ∧
    ∀ next other,
      Moment.Common b d i ⟨v, next⟩ ⟨w, other⟩ →
        Moment.Echoes b i progress ⟨v, next⟩ ⟨w, other⟩ := by
  intro progress v w
  have hStart : Mirrors b d i {} (x.step s).1 (y.step t).1 :=
    Mirrors.of_install hLeftBench.coherent hRightBench.coherent
      hConfig hClock hOwners hPresent hInstalls hLeft hRight
  have hMirrors : Mirrors b d i progress v w := hStart.run hCommon
  exact ⟨hMirrors.slot, hMirrors.stamped,
    fun next other hNext => hMirrors.echoes hNext⟩

/- A bench with a slot that was written to. -/
def worn
    (b : Fin n) : Bench n 0 :=
  let start : Bench n 0 :=
    fresh (.manual ⟨0⟩) (Vector.replicate n {}) #v[]
  (start.run
    [.slot b 3 (.presence (.plugIn .rotation)),
      .clock (.advance (.ofMillis 30)),
      .slot b 3 (.sensor .resetRotationPosition)]).1

/- A bench of the same age with a slot that never was. -/
def unworn
    (b : Fin n) : Bench n 0 :=
  let start : Bench n 0 :=
    fresh (.manual ⟨0⟩) (Vector.replicate n {}) #v[]
  (start.run
    [.slot b 3 (.presence .connect),
      .clock (.advance (.ofMillis 30))]).1

theorem worn_reachable
    (b : Fin n) :
    (worn b).Reachable :=
  (Reachable.fresh _ _ _).run _

theorem unworn_reachable
    (b : Fin n) :
    (unworn b).Reachable :=
  (Reachable.fresh _ _ _).run _

theorem unworn_ambience :
    let used : Bench 1 0 := worn 0
    let spare : Bench 1 0 := unworn 0
    (spare.bay 0).config = (used.bay 0).config ∧
    spare.clock = used.clock ∧
    spare.owners = used.owners := by
  refine ⟨?_, ?_, ?_⟩
  all_goals with_unfolding_all rfl

theorem installing_forgets_worn :
    let used : Bench 1 0 := worn 0
    let spare : Bench 1 0 := unworn 0
    let i : SlotIndex := ⟨3, by decide⟩
    let put : Step 1 0 := .slot 0 3 (.presence (.install (some .motor)))
    let write : Step 1 0 :=
      .slot 0 3 (.motor (.tell (.setVelocity 100)))
    (used.slot 0 i).deviceType ≠ (spare.slot 0 i).deviceType ∧
    (used.slot 0 i).timestamp ≠ (spare.slot 0 i).timestamp ∧
    (spare.run [put, write]).1.slot 0 i =
      (used.run [put, write]).1.slot 0 i := by
  intro used spare i put write
  have hLeft := used.visit?_slot 0 i.isLt
  have hRight := spare.visit?_slot 0 i.isLt
  have hCommon :
      List.Forall₂ (Moment.Common 0 0 i)
        ((used.step put).1.moments [write])
        ((spare.step put).1.moments [write]) :=
    .cons (.use _ _ _ _ _ (visit?_slot _ 0 i.isLt _)
      (visit?_slot _ 0 i.isLt _)) .nil
  have hForgets :=
    installing_forgets (worn_reachable 0) (unworn_reachable 0)
      unworn_ambience.1 unworn_ambience.2.1 unworn_ambience.2.2
      (Or.inr (by decide +kernel)) rfl (hLeft _) (hRight _) hCommon
  have hStamped :
      (Progress.through 0 i
        ((used.step put).1.moments [write])).stamped = true := by
    decide +kernel
  exact ⟨by decide +kernel, by decide +kernel,
    hForgets.2.1 hStamped⟩

/-
  A copy from before the first write keeps the timestamp, and
  so it tells the slots apart even after that write.
-/
theorem copies_keep_the_timestamp :
    let used : Bench 1 0 := worn 0
    let spare : Bench 1 0 := unworn 0
    let i : SlotIndex := ⟨3, by decide⟩
    let put : Step 1 0 := .slot 0 3 (.presence (.plugIn .motor))
    let steps : List (Step 1 0) :=
      [.copy 0 3 (.save "idle"),
        .slot 0 3 (.motor (.tell (.setCurrentLimit 0)))]
    let compare : Step 1 0 := .copy 0 3 (.compare "idle")
    let v := ((used.step put).1.run steps).1
    let w := ((spare.step put).1.run steps).1
    used.Reachable ∧ spare.Reachable ∧
    (spare.bay 0).config = (used.bay 0).config ∧
    spare.clock = used.clock ∧ spare.owners = used.owners ∧
    (Progress.through 0 i
      ((used.step put).1.moments steps)).stamped = true ∧
    (v.step compare).2.answer.said? =
      some (.ok (.comparison true true)) ∧
    (w.step compare).2.answer.said? =
      some (.ok (.comparison false true)) := by
  refine ⟨worn_reachable 0, unworn_reachable 0, unworn_ambience.1,
    unworn_ambience.2.1, unworn_ambience.2.2, ?_, ?_, ?_⟩
  · decide +kernel
  · with_unfolding_all rfl
  · with_unfolding_all rfl

end Bench

end DeviceBay
