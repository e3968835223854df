import DeviceBay.Proofs.Bench.Locality
import DeviceBay.Proofs.Bench.Padding
import Mathlib.Logic.Function.Basic

/-
  This file proves that slots do not notice each other. On a
  clock that stands still, what a run does to one slot, and all
  that it shows of the slot, is what remains of the run if each
  step that is addressed to another slot is left out.

  Key definitions include:
    * `Step.ambient`
    * `Makers`
    * `Bench.concerns`
    * `Bench.alone`
    * `Bench.shownOf`
    * `Moment.Calm`
    * `Bench.Beside`

  Main declarations:
    * `Bench.step_clock_of_calm`
    * `Bench.Beside.skip`
    * `Bench.Beside.both`
    * `Bench.Beside.run`
    * `Bench.slots_are_isolated`
-/

namespace DeviceBay

variable {n m : Nat}

------------------------------------------------------------
-- Steps that concern a slot
------------------------------------------------------------

/- Whether all slots may notice a step. -/
def Step.ambient : Step n m → Bool
  | .clock _ => true
  | .owner _ => true
  | _ => false

/- The slot that a run put aside last under each name, if any. -/
abbrev Makers (n : Nat) :=
  String → Option (Fin n × SlotIndex)

namespace Makers

def none : Makers n :=
  fun _ => .none

/- Whether what a name stands for does not come from elsewhere. -/
def own
    (makers : Makers n)
    (place : Fin n × SlotIndex)
    (name : String) : Bool :=
  match makers name with
  | .none => true
  | .some maker => decide (maker = place)

end Makers

namespace Bench

def makersAfter
    (bench : Bench n m)
    (makers : Makers n)
    (s : Step n m) : Makers n :=
  match bench.visit? s with
  | some (place, .save name) =>
      Function.update makers name (some place)
  | _ => makers

/-
  Whether a step is addressed to a slot. To compare the slot to
  a copy of another one is to look at two slots.
-/
def concerns
    (bench : Bench n m)
    (makers : Makers n)
    (place : Fin n × SlotIndex)
    (s : Step n m) : Bool :=
  match bench.visit? s with
  | none => false
  | some (visited, .compare name) =>
      decide (visited = place) && makers.own place name
  | some (visited, _) => decide (visited = place)

/- The steps of a run that are left if one slot is alone. -/
def alone
    (bench : Bench n m)
    (place : Fin n × SlotIndex)
    (makers : Makers n) :
    List (Step n m) → List (Step n m)
  | [] => []
  | s :: rest =>
      let later :=
        (bench.step s).1.alone place (bench.makersAfter makers s)
          rest
      if s.ambient || bench.concerns makers place s then
        s :: later
      else
        later

/- What the steps of a run show that are addressed to one slot. -/
def shownOf
    (bench : Bench n m)
    (place : Fin n × SlotIndex)
    (makers : Makers n) :
    List (Step n m) → List Shown
  | [] => []
  | s :: rest =>
      let (next, outcome) := bench.step s
      let later :=
        next.shownOf place (bench.makersAfter makers s) rest
      if bench.concerns makers place s then
        outcome.shown :: later
      else
        later

end Bench

/- A moment at which no publication moves the clock meanwhile. -/
def Moment.Calm
    (x : Moment n m) : Prop :=
  ∀ b i k edit meanwhile,
    x.step = .slot b i (.publish k edit meanwhile) →
      x.after.clock = x.bench.clock

namespace Bench

------------------------------------------------------------
-- Calm clocks
------------------------------------------------------------

/- Publications are all that can move such a clock from within. -/
theorem exists_publish_of_target?
    {bench : Bench n m}
    {s : Step n m}
    {b : Fin n}
    {i : SlotIndex}
    {c : SlotCall}
    {d : Duration}
    (hTarget : bench.target? s = some ((b, i), c))
    (hAdvance : c.advance? (bench.slot b i) = some d) :
    ∃ k edit meanwhile,
      s = .slot b i (.publish k edit meanwhile) := by
  cases c
  case publish k edit meanwhile =>
    rcases cases_of_target? hTarget with
      hSlot | ⟨_, _, _, _, hInstall⟩ | ⟨_, _, raw, _, _, hDriver⟩
    · exact ⟨k, edit, meanwhile, hSlot⟩
    · cases hInstall
    · rcases DeviceCall.cases_of_driverCall? hDriver with
        ⟨call, hCall⟩ | ⟨call, hCall⟩
      · cases hCall
      · cases hCall
  all_goals cases hAdvance

theorem step_clock_of_calm
    {bench : Bench n m}
    {s : Step n m}
    (hStill : bench.clock.drift = id)
    (hAmbient : s.ambient = false)
    (hCalm : Moment.Calm ⟨bench, s⟩) :
    (bench.step s).1.clock = bench.clock := by
  cases hTarget : bench.target? s with
  | none =>
      rw [step_clock_of_target? hTarget]
      unfold idleClock
      split
      · cases hAmbient
      · exact Clock.read_snd_of_still hStill
      · rfl
  | some target =>
      rcases target with ⟨⟨b, i⟩, c⟩
      have hClock := step_clock_of_target hStill hTarget
      cases hAdvance : c.advance? (bench.slot b i) with
      | none =>
          rw [hClock, hAdvance]
          rfl
      | some d =>
          rcases exists_publish_of_target? hTarget hAdvance with
            ⟨k, edit, meanwhile, hStep⟩
          exact hCalm b i k edit meanwhile hStep

theorem step_owners_of_not_ambient
    {bench : Bench n m}
    {s : Step n m}
    (hAmbient : s.ambient = false) :
    (bench.step s).1.owners = bench.owners := by
  rw [step_owners]
  cases s with
  | owner c => cases hAmbient
  | _ => rfl

theorem visit?_of_ambient
    (bench : Bench n m)
    {s : Step n m}
    (hAmbient : s.ambient = true) :
    bench.visit? s = none := by
  cases s
  case clock c => rfl
  case owner c => rfl
  all_goals cases hAmbient

theorem not_concerns_of_ambient
    (bench : Bench n m)
    (makers : Makers n)
    (place : Fin n × SlotIndex)
    {s : Step n m}
    (hAmbient : s.ambient = true) :
    bench.concerns makers place s = false := by
  simp only [concerns, bench.visit?_of_ambient hAmbient]

theorem makersAfter_of_ambient
    (bench : Bench n m)
    (makers : Makers n)
    {s : Step n m}
    (hAmbient : s.ambient = true) :
    bench.makersAfter makers s = makers := by
  simp only [makersAfter, bench.visit?_of_ambient hAmbient]

------------------------------------------------------------
-- Two runs side by side
------------------------------------------------------------

/-
  Two benches that look the same from one slot. The one has
  taken steps on other slots, too, and the other has not.
-/
structure Beside
    (place : Fin n × SlotIndex)
    (makers fewer : Makers n)
    (long short : Bench n m) : Prop where
  still : long.clock.drift = id
  clock : short.clock = long.clock
  owners : short.owners = long.owners
  config : ∀ b, (short.bay b).config = (long.bay b).config
  views : ∀ t, (short.surface t).bay = (long.surface t).bay
  slot :
    short.slot place.1 place.2 = long.slot place.1 place.2
  copies :
    ∀ name,
      makers.own place name = true →
        fewer name = makers name ∧
          short.copy? name = long.copy? name

namespace Beside

variable {place : Fin n × SlotIndex}
variable {makers fewer : Makers n}
variable {long short : Bench n m} {s : Step n m}

theorem refl
    {origin : Bench n m}
    (hStill : origin.clock.drift = id)
    (makers : Makers n) :
    Beside place makers makers origin origin where
  still := hStill
  clock := rfl
  owners := rfl
  config _ := rfl
  views _ := rfl
  slot := rfl
  copies _ _ := ⟨rfl, rfl⟩

theorem visit?_eq
    (hBeside : Beside place makers fewer long short)
    (s : Step n m) :
    short.visit? s = long.visit? s :=
  visit?_of_views hBeside.views s

theorem env_eq
    (hBeside : Beside place makers fewer long short)
    (b : Fin n) :
    short.env b = long.env b := by
  rw [env, env, hBeside.config, hBeside.owners]

------------------------------------------------------------
-- A step of the one run only
------------------------------------------------------------

/- What does not concern a slot leaves it alone. -/
theorem slot_of_not_concerned
    (hOther : long.concerns makers place s = false) :
    (long.step s).1.slot place.1 place.2 =
      long.slot place.1 place.2 := by
  by_cases hHere : ∃ u, long.visit? s = some (place, u)
  · rcases hHere with ⟨u, hVisit⟩
    have hVisits := visits_of_visit? hVisit
    cases u
    case compare name => exact hVisits.slot
    all_goals simp [concerns, hVisit] at hOther
  · apply slot_of_visit?_ne
    intro u hVisit
    exact hHere ⟨u, hVisit⟩

theorem makersAfter_of_save
    {visited : Fin n × SlotIndex}
    {saved : String}
    (hVisit : long.visit? s = some (visited, .save saved)) :
    long.makersAfter makers s =
      Function.update makers saved (some visited) := by
  simp only [makersAfter, hVisit]

theorem makersAfter_of_no_save
    (hNoSave :
      ∀ visited saved,
        long.visit? s ≠ some (visited, .save saved)) :
    long.makersAfter makers s = makers := by
  unfold makersAfter
  split
  · rename_i visited saved hVisit
    exact absurd hVisit (hNoSave visited saved)
  · rfl

/- A name stays its own only if nobody else saves under it. -/
theorem copies_of_not_concerned
    (hOther : long.concerns makers place s = false)
    {name : String}
    (hOwn : (long.makersAfter makers s).own place name = true) :
    long.makersAfter makers s name = makers name ∧
      makers.own place name = true ∧
      (long.step s).1.copy? name = long.copy? name := by
  by_cases hSaves :
      ∃ visited saved,
        long.visit? s = some (visited, .save saved)
  · rcases hSaves with ⟨visited, saved, hVisit⟩
    have hElsewhere : visited ≠ place := by
      simpa [concerns, hVisit] using hOther
    rw [makersAfter_of_save hVisit] at hOwn ⊢
    have hName : name ≠ saved := by
      intro hSame
      simp [Makers.own, hSame, hElsewhere] at hOwn
    rw [Makers.own, Function.update_of_ne hName] at hOwn
    refine ⟨Function.update_of_ne hName _ _, hOwn, ?_⟩
    rw [copy?_of_save hVisit, if_neg (Ne.symm hName)]
  · have hNoSave :
        ∀ visited saved,
          long.visit? s ≠ some (visited, .save saved) := by
      intro visited saved hVisit
      exact hSaves ⟨visited, saved, hVisit⟩
    rw [makersAfter_of_no_save hNoSave] at hOwn ⊢
    exact ⟨rfl, hOwn, congrFun (copy?_of_no_save hNoSave) name⟩

theorem skip
    (hBeside : Beside place makers fewer long short)
    (hAmbient : s.ambient = false)
    (hOther : long.concerns makers place s = false)
    (hCalm : Moment.Calm ⟨long, s⟩) :
    Beside place (long.makersAfter makers s) fewer
      (long.step s).1 short := by
  constructor
  case still => exact (step_drift _ s).trans hBeside.still
  case clock =>
    rw [step_clock_of_calm hBeside.still hAmbient hCalm]
    exact hBeside.clock
  case owners =>
    rw [step_owners_of_not_ambient hAmbient]
    exact hBeside.owners
  case config =>
    intro b
    rw [long.step_config s b]
    exact hBeside.config b
  case views =>
    intro t
    rw [long.step_view s t]
    exact hBeside.views t
  case slot =>
    rw [slot_of_not_concerned hOther]
    exact hBeside.slot
  case copies =>
    intro name hOwn
    rcases copies_of_not_concerned hOther hOwn with
      ⟨hMakers, hBefore, hCopy⟩
    rw [hMakers, hCopy]
    exact hBeside.copies name hBefore

------------------------------------------------------------
-- A step of both runs
------------------------------------------------------------

theorem ambient
    (hBeside : Beside place makers fewer long short)
    (hAmbient : s.ambient = true) :
    Beside place makers fewer (long.step s).1 (short.step s).1 := by
  cases s
  case clock c =>
    refine { hBeside with still := ?_, clock := ?_ }
    · exact (step_drift _ (.clock c)).trans hBeside.still
    · exact congrArg (fun clock => c.apply clock) hBeside.clock
  case owner c =>
    refine { hBeside with owners := ?_ }
    exact congrArg (fun owners => (c.apply owners).2) hBeside.owners
  all_goals cases hAmbient

theorem visit?_of_concerns
    (hConcerns : long.concerns makers place s = true) :
    ∃ u,
      long.visit? s = some (place, u) ∧
        ∀ name, u = .compare name → makers.own place name = true := by
  unfold concerns at hConcerns
  split at hConcerns
  · cases hConcerns
  · rename_i visited name hVisit
    rcases (Bool.and_eq_true _ _).mp hConcerns with ⟨hSame, hOwn⟩
    rw [of_decide_eq_true hSame] at hVisit
    refine ⟨.compare name, hVisit, ?_⟩
    intro other hUse
    cases hUse
    exact hOwn
  · rename_i visited u hNoCompare hVisit
    rw [of_decide_eq_true hConcerns] at hVisit
    refine ⟨u, hVisit, ?_⟩
    intro name hUse
    exact absurd hUse (hNoCompare name)

theorem concerns_of_visit?
    {u : SlotUse}
    (hVisit : long.visit? s = some (place, u))
    (hOwn : ∀ name, u = .compare name → makers.own place name = true) :
    long.concerns makers place s = true := by
  cases u
  case compare name => simp [concerns, hVisit, hOwn name rfl]
  all_goals simp [concerns, hVisit]

/- One use takes both runs alike. -/
theorem reply_eq
    (hBeside : Beside place makers fewer long short)
    {u : SlotUse}
    (hOwn : ∀ name, u = .compare name → makers.own place name = true) :
    u.run (short.env place.1) short.clock
        (short.slot place.1 place.2) short.copy? =
      u.run (long.env place.1) long.clock
        (long.slot place.1 place.2) long.copy? := by
  rw [hBeside.env_eq, hBeside.clock, hBeside.slot]
  apply SlotUse.run_of_copies
  intro name hUse
  exact (hBeside.copies name (hOwn name hUse)).2

/- What both runs put aside is the same. -/
theorem copies_of_visit?
    (hBeside : Beside place makers fewer long short)
    {u : SlotUse}
    (hVisit : long.visit? s = some (place, u))
    {name : String}
    (hOwn : (long.makersAfter makers s).own place name = true) :
    short.makersAfter fewer s name = long.makersAfter makers s name ∧
      (short.step s).1.copy? name = (long.step s).1.copy? name := by
  have hShort : short.visit? s = some (place, u) := by
    rw [hBeside.visit?_eq s, hVisit]
  by_cases hSaves : ∃ saved, u = .save saved
  · rcases hSaves with ⟨saved, rfl⟩
    rw [makersAfter_of_save hVisit] at hOwn ⊢
    rw [makersAfter_of_save hShort, copy?_of_save hVisit,
      copy?_of_save hShort]
    by_cases hName : saved = name
    · subst hName
      rw [Function.update_self, Function.update_self, if_pos rfl,
        if_pos rfl, hBeside.slot]
      exact ⟨rfl, rfl⟩
    · have hOther : name ≠ saved := fun hEq => hName hEq.symm
      rw [Makers.own, Function.update_of_ne hOther] at hOwn
      rw [Function.update_of_ne hOther,
        Function.update_of_ne hOther, if_neg hName, if_neg hName]
      exact hBeside.copies name hOwn
  · have hNoSave {bench : Bench n m}
        (hUse : bench.visit? s = some (place, u)) :
        ∀ visited saved,
          bench.visit? s ≠ some (visited, .save saved) := by
      intro visited saved hEq
      rw [hUse] at hEq
      cases hEq
      exact hSaves ⟨saved, rfl⟩
    rw [makersAfter_of_no_save (hNoSave hVisit)] at hOwn ⊢
    rw [makersAfter_of_no_save (hNoSave hShort),
      copy?_of_no_save (hNoSave hVisit),
      copy?_of_no_save (hNoSave hShort)]
    exact hBeside.copies name hOwn

/- A step that concerns the slot shows the same in both runs. -/
theorem both
    (hBeside : Beside place makers fewer long short)
    (hConcerns : long.concerns makers place s = true) :
    Beside place (long.makersAfter makers s)
        (short.makersAfter fewer s) (long.step s).1
        (short.step s).1 ∧
      short.concerns fewer place s = true ∧
      (short.step s).2.shown = (long.step s).2.shown := by
  rcases visit?_of_concerns hConcerns with ⟨u, hVisit, hOwn⟩
  have hShort : short.visit? s = some (place, u) := by
    rw [hBeside.visit?_eq s, hVisit]
  have hLongVisits := visits_of_visit? hVisit
  have hShortVisits := visits_of_visit? hShort
  have hReply := hBeside.reply_eq hOwn
  refine ⟨?_, ?_, ?_⟩
  · constructor
    case still => exact (step_drift _ s).trans hBeside.still
    case clock =>
      rw [hShortVisits.clock, hLongVisits.clock, hReply]
    case owners =>
      rw [step_owners, step_owners, hBeside.owners]
    case config =>
      intro b
      rw [short.step_config s b, long.step_config s b]
      exact hBeside.config b
    case views =>
      intro t
      rw [short.step_view s t, long.step_view s t]
      exact hBeside.views t
    case slot => rw [hShortVisits.slot, hLongVisits.slot, hReply]
    case copies =>
      intro name hOwnAfter
      exact hBeside.copies_of_visit? hVisit hOwnAfter
  · apply concerns_of_visit? hShort
    intro name hUse
    have hMaker := hOwn name hUse
    rw [Makers.own, (hBeside.copies name hMaker).1]
    exact hMaker
  · rw [hShortVisits.shown, hLongVisits.shown, hReply]

------------------------------------------------------------
-- Whole runs
------------------------------------------------------------

theorem run
    (hBeside : Beside place makers fewer long short)
    {steps : List (Step n m)}
    (hCalm : ∀ x ∈ long.moments steps, x.Calm) :
    short.shownOf place fewer (long.alone place makers steps) =
        long.shownOf place makers steps ∧
      (short.run (long.alone place makers steps)).1.slot place.1
          place.2 =
        (long.run steps).1.slot place.1 place.2 := by
  induction steps generalizing makers fewer long short with
  | nil => exact ⟨rfl, hBeside.slot⟩
  | cons s rest ih =>
      have hHead : Moment.Calm ⟨long, s⟩ :=
        hCalm _ List.mem_cons_self
      have hTail : ∀ x ∈ (long.step s).1.moments rest, x.Calm :=
        fun x hMember => hCalm x (List.mem_cons_of_mem _ hMember)
      cases hAmbient : s.ambient with
      | true =>
          have hLong := long.not_concerns_of_ambient makers place
            hAmbient
          have hShort := short.not_concerns_of_ambient fewer place
            hAmbient
          have hMakers := long.makersAfter_of_ambient makers hAmbient
          have hFewer := short.makersAfter_of_ambient fewer hAmbient
          have hRest := ih (hBeside.ambient hAmbient) hTail
          simp only [alone, shownOf, hAmbient, hLong, hShort,
            hMakers, hFewer, Bench.run, Bool.true_or, if_true]
          exact hRest
      | false =>
          cases hConcerns : long.concerns makers place s with
          | true =>
              rcases hBeside.both hConcerns with
                ⟨hNext, hShort, hShown⟩
              have hRest := ih hNext hTail
              simp only [alone, shownOf, hAmbient, hConcerns,
                hShort, Bench.run, Bool.false_or, if_true]
              rw [hShown, hRest.1]
              exact ⟨rfl, hRest.2⟩
          | false =>
              have hNext := hBeside.skip hAmbient hConcerns hHead
              have hRest := ih hNext hTail
              simp only [alone, shownOf, hAmbient, hConcerns,
                Bench.run, Bool.or_self]
              exact hRest

end Beside

------------------------------------------------------------
-- Isolation
------------------------------------------------------------

/- A slot that a run is never addressed to stays as it is. -/
theorem slot_run_of_unvisited
    {bench : Bench n m}
    {b : Fin n}
    {i : SlotIndex}
    {steps : List (Step n m)}
    (hElsewhere :
      ∀ x ∈ bench.moments steps, ∀ u,
        x.bench.visit? x.step ≠ some ((b, i), u)) :
    (bench.run steps).1.slot b i = bench.slot b i := by
  induction steps generalizing bench with
  | nil => rfl
  | cons s rest ih =>
      have hHead := hElsewhere ⟨bench, s⟩ List.mem_cons_self
      have hRest := ih
        (fun x hMember =>
          hElsewhere x (List.mem_cons_of_mem _ hMember))
      calc
        (bench.run (s :: rest)).1.slot b i
            = ((bench.step s).1.run rest).1.slot b i := rfl
        _ = (bench.step s).1.slot b i := hRest
        _ = bench.slot b i := slot_of_visit?_ne hHead

/-
  On a clock that stands still and is moved by clock steps only,
  each slot ends as if the steps on all other slots had never
  been taken, and all that it shows meanwhile is the same. So
  two runs in which some clients, each with a slot of its own,
  take the same steps in different order among each other show
  the same to each client and leave the same slots.
-/
theorem slots_are_isolated
    {origin : Bench n m}
    (hStill : origin.clock.drift = id) :
    (∀ steps place,
      (∀ x ∈ origin.moments steps, x.Calm) →
        origin.shownOf place .none
            (origin.alone place .none steps) =
          origin.shownOf place .none steps ∧
        (origin.run (origin.alone place .none steps)).1.slot
            place.1 place.2 =
          (origin.run steps).1.slot place.1 place.2) ∧
    (∀ (clients : Set (Fin n × SlotIndex)) left right,
      (∀ x ∈ origin.moments left ++ origin.moments right,
        x.Calm ∧
          ∀ place u,
            x.bench.visit? x.step = some (place, u) →
              place ∈ clients) →
      (∀ place ∈ clients,
        origin.alone place .none left =
          origin.alone place .none right) →
        (∀ place ∈ clients,
          origin.shownOf place .none left =
            origin.shownOf place .none right) ∧
        ∀ b i,
          (origin.run left).1.slot b i =
            (origin.run right).1.slot b i) := by
  have hAlone :
      ∀ steps place,
        (∀ x ∈ origin.moments steps, x.Calm) →
          origin.shownOf place .none
              (origin.alone place .none steps) =
            origin.shownOf place .none steps ∧
          (origin.run (origin.alone place .none steps)).1.slot
              place.1 place.2 =
            (origin.run steps).1.slot place.1 place.2 := by
    intro steps place hCalm
    exact (Beside.refl hStill .none).run hCalm
  refine ⟨hAlone, ?_⟩
  intro clients left right hMoments hSame
  have hLeft :=
    fun x hMember =>
      hMoments x (List.mem_append_left _ hMember)
  have hRight :=
    fun x hMember =>
      hMoments x (List.mem_append_right _ hMember)
  have hLeftAlone := fun place =>
    hAlone left place (fun x hMember => (hLeft x hMember).1)
  have hRightAlone := fun place =>
    hAlone right place (fun x hMember => (hRight x hMember).1)
  constructor
  · intro place hClient
    rw [← (hLeftAlone place).1, ← (hRightAlone place).1,
      hSame place hClient]
  · intro b i
    by_cases hClient : (b, i) ∈ clients
    · rw [← (hLeftAlone (b, i)).2, ← (hRightAlone (b, i)).2,
        hSame (b, i) hClient]
    · rw [slot_run_of_unvisited, slot_run_of_unvisited]
      · intro x hMember u hVisit
        exact hClient ((hRight x hMember).2 (b, i) u hVisit)
      · intro x hMember u hVisit
        exact hClient ((hLeft x hMember).2 (b, i) u hVisit)

/- A motor and a sensor next to each other, the motor first. -/
def motorFirst
    (b : Fin n) : List (Step n m) :=
  [.slot b 2 (.presence (.plugIn .motor)),
    .slot b 3 (.presence (.plugIn .rotation)),
    .slot b 2 (.motor (.tell (.setVelocity 100))),
    .clock (.advance (.ofMillis 5)),
    .slot b 3 (.sensor .resetRotationPosition)]

/- The same uses of both, the sensor first. -/
def sensorFirst
    (b : Fin n) : List (Step n m) :=
  [.slot b 3 (.presence (.plugIn .rotation)),
    .slot b 2 (.presence (.plugIn .motor)),
    .slot b 2 (.motor (.tell (.setVelocity 100))),
    .clock (.advance (.ofMillis 5)),
    .slot b 3 (.sensor .resetRotationPosition)]

theorem slots_are_isolated_side_by_side :
    let origin : Bench 1 0 :=
      fresh (.manual ⟨7⟩) (Vector.replicate 1 {}) #v[]
    origin.clock.drift = id ∧
    origin.shownOf (0, ⟨2, by decide⟩) .none (motorFirst 0) =
      origin.shownOf (0, ⟨2, by decide⟩) .none (sensorFirst 0) ∧
    ∀ i,
      (origin.run (motorFirst 0)).1.slot 0 i =
        (origin.run (sensorFirst 0)).1.slot 0 i := by
  intro origin
  let clients : Set (Fin 1 × SlotIndex) :=
    {(0, ⟨2, by decide⟩), (0, ⟨3, by decide⟩)}
  have hTwo (bench : Bench 1 0) :=
    bench.visit?_slot 0 (i := 2) (by decide)
  have hThree (bench : Bench 1 0) :=
    bench.visit?_slot 0 (i := 3) (by decide)
  have hMoments :
      ∀ x ∈
          origin.moments (motorFirst 0) ++
            origin.moments (sensorFirst 0),
        x.Calm ∧
          ∀ place u,
            x.bench.visit? x.step = some (place, u) →
              place ∈ clients := by
    intro x hMember
    simp only [motorFirst, sensorFirst, moments, List.cons_append,
      List.nil_append, List.mem_cons, List.not_mem_nil, or_false]
      at hMember
    rcases hMember with rfl | rfl | rfl | rfl | rfl | rfl | rfl |
      rfl | rfl | rfl
    all_goals
      refine ⟨?_, ?_⟩
      · intro b i k edit meanwhile hStep
        cases hStep
      intro place u hVisit
      first
        | cases (hTwo _ _).symm.trans hVisit
          exact Or.inl rfl
        | cases (hThree _ _).symm.trans hVisit
          exact Or.inr rfl
        | cases hVisit
  have hSame :
      ∀ place ∈ clients,
        origin.alone place .none (motorFirst 0) =
          origin.alone place .none (sensorFirst 0) := by
    rintro place (rfl | rfl)
    · simp [motorFirst, sensorFirst, alone, Step.ambient,
        concerns, hTwo, hThree]
    · simp [motorFirst, sensorFirst, alone, Step.ambient,
        concerns, hTwo, hThree]
  have hStill : origin.clock.drift = id := rfl
  have hIsolated :=
    (slots_are_isolated hStill).2 clients _ _ hMoments hSame
  exact ⟨hStill, hIsolated.1 _ (Or.inl rfl), hIsolated.2 0⟩

end Bench

end DeviceBay
