import DeviceBay.Proofs.Bench.Target

/-
  This file says which steps have to do with one slot only, and
  proves that such a step reads and writes nothing but its slot,
  the clock, the settings of its bay, the owners of tuning
  constants and, to compare a slot, the copies put aside. Error
  cells are the one thing that it may touch besides.

  Key definitions include:
    * `Shown`
    * `SlotUse`
    * `SlotUse.run`
    * `Bench.visit?`
    * `Bench.Visiting`
    * `Bench.copiesAfter`
    * `Bench.Visits`

  Main declarations:
    * `Bench.visiting_of_visit?`
    * `Bench.visits_of_visit?`
    * `Bench.idles_of_visit?`
    * `Bench.step_copies`
    * `Bench.visit?_of_views`
-/

namespace DeviceBay

------------------------------------------------------------
-- What is shown
------------------------------------------------------------

/- All that a step shows, except for the error cell. -/
structure Shown where
  said : Option (Except Failure Value)
  readings : List Instant
  events : List Event

def Answer.said? : Answer → Option (Except Failure Value)
  | .value v => some (.ok v)
  | .failed f => some (.error f)
  | .raw v _ => some (.ok v)
  | .noHandle _ => none

def Outcome.shown
    (outcome : Outcome) : Shown where
  said := outcome.answer.said?
  readings := outcome.readings
  events := outcome.events

def Reply.shown
    (reply : Reply Failure Value) : Shown where
  said := some reply.result
  readings := reply.readings
  events := reply.events

theorem Answer.said?_ofResult
    (result : Except Failure Value) :
    (ofResult result).said? = some result := by
  cases result <;> rfl

------------------------------------------------------------
-- Raw replies without their error cell
------------------------------------------------------------

namespace RawReply

/- A raw call gives a value in any case. -/
def plainly
    (raw : RawReply) : Reply Failure Value where
  result := .ok raw.value
  slot := raw.slot
  clock := raw.clock
  readings := raw.readings
  events := raw.events

theorem settle_plainly
    {α : Type}
    (errno other : Errno)
    (failure : Value)
    (render : α → Value)
    (reply : Reply SlotError α) :
    (settle errno failure render reply).plainly =
      (settle other failure render reply).plainly := by
  cases hResult : reply.result with
  | ok value =>
      rw [settle_of_ok errno failure render hResult,
        settle_of_ok other failure render hResult]
      rfl
  | error e =>
      rw [settle_of_error errno failure render hResult,
        settle_of_error other failure render hResult]

end RawReply

/- The error cell has no say in what a raw call does. -/
theorem DeviceCall.run_plainly
    (env : Env)
    (clock : Clock)
    (slot : Slot)
    (errno other : Errno)
    (c : DeviceCall) :
    (c.run env clock slot errno).plainly =
      (c.run env clock slot other).plainly := by
  cases c with
  | timestamp => rfl
  | radio c => rfl
  | motor c =>
      cases hTyped : c.typed with
      | ok call =>
          simp only [DeviceCall.run,
            c.run_of_typed env clock slot _ hTyped]
          exact RawReply.settle_plainly errno other _ _ _
      | error e =>
          simp only [DeviceCall.run,
            c.run_of_undecoded env clock slot _ hTyped]
          split
          · exact RawReply.settle_plainly errno other _ _ _
          · rfl
  | imu c =>
      simp only [DeviceCall.run, c.run_eq]
      exact RawReply.settle_plainly errno other _ _ _

------------------------------------------------------------
-- Uses of one slot
------------------------------------------------------------

/-
  All that a step can ask of one slot: an operation, a raw call,
  the code of its timestamp, something that is settled without
  looking into it, to be put aside or to be compared.
-/
inductive SlotUse
  | call (c : SlotCall)
  | raw (c : DeviceCall)
  | stampCode
  | settled (result : Except Failure Value)
  | save (name : String)
  | compare (name : String)

namespace SlotUse

/- How a slot compares to what was put aside, if anything was. -/
def comparison
    (slot : Slot) : Option Slot → Value
  | none => .comparison false false
  | some saved =>
      .comparison (saved.eqv slot) (saved.state.eqv slot.state)

def run
    (env : Env)
    (clock : Clock)
    (slot : Slot)
    (copy? : String → Option Slot) : SlotUse → Reply Failure Value
  | .call c => c.run env clock slot
  | .raw c => (c.run env clock slot .clear).plainly
  | .stampCode =>
      .still slot clock
        (.ok (.int slot.timestamp.millis.toInt32.toInt))
  | .settled result => .still slot clock result
  | .save _ => .still slot clock (.ok .unit)
  | .compare name =>
      .still slot clock (.ok (comparison slot (copy? name)))

/- A use looks at one copy at most, if it is to compare with it. -/
theorem run_of_copies
    (env : Env)
    (clock : Clock)
    (slot : Slot)
    {left right : String → Option Slot}
    {u : SlotUse}
    (hCopies : ∀ name, u = .compare name → left name = right name) :
    u.run env clock slot left = u.run env clock slot right := by
  cases u with
  | compare name => rw [run, run, hCopies name rfl]
  | _ => rfl

end SlotUse

namespace Bench

variable {n m : Nat}

------------------------------------------------------------
-- Visits
------------------------------------------------------------

/-
  What a step asks of a slot, if it is addressed to one. This is
  not so for a question about a whole bay, even if it is asked
  through the handle of a slot.
-/
def use? : Step n m → Option SlotUse
  | .slot _ _ c => some (.call c)
  | .copy _ _ (.save name) => some (.save name)
  | .copy _ _ (.compare name) => some (.compare name)
  | .relation b i (.same d j) =>
      some
        (.settled
          (((Bay.index? j).map
            (fun other =>
              Value.bool
                (decide (b = d ∧ i = other.val)))).mapError
            .slot))
  | .surface _ (.install _ code) =>
      some (.call (.presence (.install (DeviceType.ofCode? code))))
  | .surface _ (.directory (.handle i)) =>
      some (.settled (.ok (.maybeNat (some i))))
  | .surface _ (.directory (.timestampAt _)) => some .stampCode
  | .device _ _ c => some (.raw c)
  | _ => none

/- The slot that a step is addressed to, if its bay has that one. -/
def place?
    (bench : Bench n m) : Step n m → Option (Fin n × SlotIndex)
  | .slot b i _ | .copy b i _ | .relation b i _ =>
      (DirectoryCall.handle? i).map (fun index => (b, index))
  | .surface s (.install i _)
  | .surface s (.directory (.handle i)) =>
      (DirectoryCall.handle? i).map
        (fun index => ((bench.surface s).bay, index))
  | .surface s (.directory (.timestampAt i)) =>
      if i < 0 then
        none
      else
        (DirectoryCall.handle? i.toNat).map
          (fun index => ((bench.surface s).bay, index))
  | .device s h _ => bench.resolve s h
  | _ => none

def visit?
    (bench : Bench n m)
    (s : Step n m) : Option ((Fin n × SlotIndex) × SlotUse) :=
  match bench.place? s, use? s with
  | some place, some u => some (place, u)
  | _, _ => none

theorem visit?_eq_some_iff
    (bench : Bench n m)
    (s : Step n m)
    (place : Fin n × SlotIndex)
    (u : SlotUse) :
    bench.visit? s = some (place, u) ↔
      bench.place? s = some place ∧ use? s = some u := by
  unfold visit?
  cases bench.place? s with
  | none => simp
  | some other =>
      cases use? s with
      | none => simp
      | some used => simp

theorem visit?_slot
    (bench : Bench n m)
    (b : Fin n)
    {i : Nat}
    (hIndex : i < slotCount)
    (c : SlotCall) :
    bench.visit? (.slot b i c) = some ((b, ⟨i, hIndex⟩), .call c) := by
  simp only [visit?, place?, use?, DirectoryCall.handle?,
    Bay.index?_of_lt hIndex]
  rfl

/- A handle is found for the number of a slot. -/
theorem eq_of_handle?_map
    {α : Type}
    {i : Nat}
    {f : SlotIndex → α}
    {value : α}
    (hFound : (DirectoryCall.handle? i).map f = some value) :
    ∃ index : SlotIndex, i = index.val ∧ value = f index := by
  by_cases hIndex : i < slotCount
  · rw [DirectoryCall.handle?, Bay.index?_of_lt hIndex] at hFound
    cases hFound
    exact ⟨⟨i, hIndex⟩, rfl, rfl⟩
  · rw [DirectoryCall.handle?, Bay.index?_of_not_lt hIndex]
      at hFound
    cases hFound

/-
  The steps that are addressed to a slot, by what they ask of
  it. A surface is addressed to the slots of its own bay.
-/
inductive Visiting
    (bench : Bench n m)
    (b : Fin n)
    (i : SlotIndex) : Step n m → SlotUse → Prop
  | slot (c : SlotCall) :
      Visiting bench b i (.slot b i c) (.call c)
  | save (name : String) :
      Visiting bench b i (.copy b i (.save name)) (.save name)
  | compare (name : String) :
      Visiting bench b i (.copy b i (.compare name))
        (.compare name)
  | same (d : Fin n) (j : Nat) :
      Visiting bench b i (.relation b i (.same d j))
        (.settled
          (((Bay.index? j).map
            (fun other =>
              Value.bool
                (decide
                  (b = d ∧ i.val = other.val)))).mapError .slot))
  | install (t : Fin m) (code : UInt8)
      (hView : (bench.surface t).bay = b) :
      Visiting bench b i (.surface t (.install i code))
        (.call (.presence (.install (DeviceType.ofCode? code))))
  | handle (t : Fin m) (hView : (bench.surface t).bay = b) :
      Visiting bench b i (.surface t (.directory (.handle i)))
        (.settled (.ok (.maybeNat (some i))))
  | timestampAt (t : Fin m) (j : Int)
      (hView : (bench.surface t).bay = b)
      (hSign : ¬ j < 0) (hIndex : j.toNat = i.val) :
      Visiting bench b i
        (.surface t (.directory (.timestampAt j))) .stampCode
  | device (t : Fin m) (h : Handle n) (c : DeviceCall)
      (hHandle : bench.resolve t h = some (b, i)) :
      Visiting bench b i (.device t h c) (.raw c)

theorem visiting_of_visit?
    {bench : Bench n m}
    {s : Step n m}
    {b : Fin n}
    {i : SlotIndex}
    {u : SlotUse}
    (hVisit : bench.visit? s = some ((b, i), u)) :
    bench.Visiting b i s u := by
  rcases (bench.visit?_eq_some_iff s _ u).mp hVisit with
    ⟨hPlace, hUse⟩
  cases s
  case slot d j c =>
    rcases eq_of_handle?_map hPlace with ⟨index, rfl, hEq⟩
    cases hEq
    cases hUse
    exact .slot c
  case copy d j c =>
    rcases eq_of_handle?_map hPlace with ⟨index, rfl, hEq⟩
    cases hEq
    cases c with
    | save name => cases hUse; exact .save name
    | compare name => cases hUse; exact .compare name
  case relation d j c =>
    rcases eq_of_handle?_map hPlace with ⟨index, rfl, hEq⟩
    cases hEq
    cases c with
    | deviceCount => cases hUse
    | same other k => cases hUse; exact .same other k
  case surface t c =>
    cases c
    case install j code =>
      rcases eq_of_handle?_map hPlace with ⟨index, rfl, hEq⟩
      cases hEq
      cases hUse
      exact .install t code rfl
    case directory c =>
      cases c
      case handle j =>
        rcases eq_of_handle?_map hPlace with ⟨index, rfl, hEq⟩
        cases hEq
        cases hUse
        exact .handle t rfl
      case timestampAt j =>
        simp only [place?] at hPlace
        split at hPlace
        · cases hPlace
        · rename_i hSign
          rcases eq_of_handle?_map hPlace with ⟨index, hNat, hEq⟩
          cases hEq
          cases hUse
          exact .timestampAt t j rfl hSign hNat
      all_goals cases hUse
    all_goals cases hUse
  case device t h c =>
    cases hUse
    exact .device t h c hPlace
  all_goals cases hUse

/-
  A step that has to do with one slot only: it shows what the
  use of the slot shows, and nothing else changes but the clock.
-/
structure Visits
    (bench : Bench n m)
    (b : Fin n)
    (i : SlotIndex)
    (s : Step n m)
    (reply : Reply Failure Value) : Prop where
  slot : (bench.step s).1.slot b i = reply.slot
  others :
    ∀ d j, (b, i) ≠ (d, j) →
      (bench.step s).1.slot d j = bench.slot d j
  clock : (bench.step s).1.clock = reply.clock
  shown : (bench.step s).2.shown = reply.shown

/- A use that only looks at its slot. -/
theorem visits_of_looked
    {bench : Bench n m}
    {b : Fin n}
    {i : SlotIndex}
    {s : Step n m}
    {result : Except Failure Value}
    (hLooked : bench.Looked (bench.step s))
    (hClock : (bench.step s).1.clock = bench.clock)
    (hShown :
      (bench.step s).2.shown = ⟨some result, [], []⟩) :
    bench.Visits b i s
      (.still (bench.slot b i) bench.clock result) := by
  constructor
  case slot => exact hLooked.slot b i
  case others => exact fun d j _ => hLooked.slot d j
  case clock => exact hClock
  case shown => exact hShown

theorem stepDevice_visits
    {bench : Bench n m}
    {s : Fin m}
    {h : Handle n}
    {b : Fin n}
    {i : SlotIndex}
    (hHandle : bench.resolve s h = some (b, i))
    (c : DeviceCall) :
    bench.Visits b i (.device s h c)
      (c.run (bench.env b) bench.clock (bench.slot b i)
        .clear).plainly := by
  have hStep := stepDevice_eq (c := c) hHandle rfl
  rw [DeviceCall.run_plainly _ _ _ .clear (bench.surface s).errno]
  constructor
  case slot =>
    rw [hStep, slot_setErrno, slot_settle, slot_setSlot_self]
    rfl
  case others =>
    intro d j hNe
    rw [hStep, slot_setErrno, slot_settle,
      slot_setSlot_of_ne bench b d i j _ hNe]
  case clock => exact congrArg (fun result => result.1.clock) hStep
  case shown =>
    exact congrArg (fun result => result.2.shown) hStep

/- A step does what the use of its slot does. -/
theorem visits_of_visit?
    {bench : Bench n m}
    {s : Step n m}
    {b : Fin n}
    {i : SlotIndex}
    {u : SlotUse}
    (hVisit : bench.visit? s = some ((b, i), u)) :
    bench.Visits b i s
      (u.run (bench.env b) bench.clock (bench.slot b i)
        bench.copy?) := by
  have hIndex := Bay.index?_of_lt i.isLt
  cases visiting_of_visit? hVisit with
  | slot c =>
      have hRuns := bench.stepSlot_runs b i c
      refine ⟨hRuns.slot, hRuns.others, hRuns.clock, ?_⟩
      rw [stepSlot_eq rfl, Outcome.shown, Answer.said?_ofResult]
      rfl
  | save name =>
      have hLooked := bench.stepCopy_looked b i (.save name)
      apply visits_of_looked hLooked (step_clock_of_target? rfl)
      simp only [step, stepCopy, hIndex]
      rfl
  | compare name =>
      have hLooked := bench.stepCopy_looked b i (.compare name)
      apply visits_of_looked hLooked (step_clock_of_target? rfl)
      simp only [step, stepCopy, hIndex]
      cases bench.copy? name <;> rfl
  | same d j =>
      have hLooked := bench.stepRelation_looked b i (.same d j)
      apply visits_of_looked hLooked (step_clock_of_target? rfl)
      simp only [step, stepRelation, hIndex]
      cases Bay.index? j with
      | error e => rfl
      | ok index => simp only [Fin.ext_iff]; rfl
  | install t code hView =>
      subst hView
      have hRuns := bench.stepInstall_runs t i code
      refine ⟨hRuns.slot, hRuns.others, hRuns.clock, ?_⟩
      simp only [step, stepSurface, hIndex]
      rfl
  | handle t hView =>
      apply visits_of_looked (bench.looked_self _) rfl
      simp only [step, stepSurface, DirectoryCall.answer,
        DirectoryCall.handle?, hIndex]
      rfl
  | timestampAt t j hView hSign hNat =>
      subst hView
      apply visits_of_looked (bench.looked_self _) rfl
      simp only [step, stepSurface, DirectoryCall.answer,
        DirectoryCall.timestampCode, if_neg hSign,
        Bay.timestampAt, hNat, hIndex]
      rfl
  | device t h c hHandle => exact stepDevice_visits hHandle c

------------------------------------------------------------
-- Steps that are addressed to no slot
------------------------------------------------------------

theorem target?_of_visit?
    {bench : Bench n m}
    {s : Step n m}
    (hVisit : bench.visit? s = none) :
    bench.target? s = none := by
  cases hTarget : bench.target? s with
  | none => rfl
  | some target =>
      unfold target? at hTarget
      split at hTarget
      · split at hTarget
        · rename_i hIndex
          simp [visit?, place?, use?, DirectoryCall.handle?,
            Bay.index?_of_lt hIndex, Except.toOption] at hVisit
        · cases hTarget
      · split at hTarget
        · rename_i hIndex
          simp [visit?, place?, use?, DirectoryCall.handle?,
            Bay.index?_of_lt hIndex, Except.toOption] at hVisit
        · cases hTarget
      · split at hTarget
        · rename_i hHandle _
          simp [visit?, place?, use?, hHandle] at hVisit
        · cases hTarget
      · cases hTarget

theorem idles_of_visit?
    {bench : Bench n m}
    {s : Step n m}
    (hVisit : bench.visit? s = none) :
    bench.Idles s :=
  idles_of_target? (target?_of_visit? hVisit)

/- A step that is addressed to another slot, or to none. -/
theorem slot_of_visit?_ne
    {bench : Bench n m}
    {s : Step n m}
    {b : Fin n}
    {i : SlotIndex}
    (hElsewhere : ∀ u, bench.visit? s ≠ some ((b, i), u)) :
    (bench.step s).1.slot b i = bench.slot b i := by
  cases hVisit : bench.visit? s with
  | none => exact (idles_of_visit? hVisit).slot b i
  | some visit =>
      rcases visit with ⟨⟨d, j⟩, u⟩
      apply (visits_of_visit? hVisit).others
      intro hSame
      apply hElsewhere u
      rw [hVisit, hSame]

/- Where a step goes depends on what the surfaces are over. -/
theorem visit?_of_views
    {x y : Bench n m}
    (hViews : ∀ t, (x.surface t).bay = (y.surface t).bay)
    (s : Step n m) :
    x.visit? s = y.visit? s := by
  have hPlace : x.place? s = y.place? s := by
    unfold place?
    split
    case h_7 t h c =>
      cases h with
      | own i => simp only [resolve, hViews t]
      | elsewhere b i => rfl
    all_goals first | rfl | simp only [hViews]
  rw [visit?, visit?, hPlace]

------------------------------------------------------------
-- Copies
------------------------------------------------------------

theorem step_relation_fst
    (bench : Bench n m)
    (b : Fin n)
    (i : Nat)
    (c : HandleRelation n) :
    (bench.step (.relation b i c)).1 = bench := by
  simp only [step, stepRelation]
  split
  · rfl
  · cases c with
    | deviceCount => rfl
    | same other j =>
        dsimp only
        split <;> rfl

theorem step_compare_fst
    (bench : Bench n m)
    (b : Fin n)
    (i : Nat)
    (name : String) :
    (bench.step (.copy b i (.compare name))).1 = bench := by
  simp only [step, stepCopy]
  split
  · rfl
  · split <;> rfl

/- The copies after a step: only saving a slot adds to them. -/
def copiesAfter
    (bench : Bench n m) : Step n m → List (String × Slot)
  | .copy b i (.save name) =>
      if h : i < slotCount then
        (name, bench.slot b ⟨i, h⟩) :: bench.copies
      else
        bench.copies
  | _ => bench.copies

theorem step_copies
    (bench : Bench n m)
    (s : Step n m) :
    (bench.step s).1.copies = bench.copiesAfter s := by
  cases s with
  | clock c => rfl
  | owner c => rfl
  | bay b c => cases c <;> rfl
  | slot b i c =>
      simp only [step, stepSlot]
      split <;> rfl
  | copy b i c =>
      cases c with
      | save name =>
          by_cases hIndex : i < slotCount
          · simp only [step, stepCopy, Bay.index?_of_lt hIndex,
              copiesAfter, dif_pos hIndex]
            rfl
          · simp only [step, stepCopy,
              Bay.index?_of_not_lt hIndex, copiesAfter,
              dif_neg hIndex]
      | compare name =>
          rw [step_compare_fst]
          rfl
  | relation b i c =>
      rw [step_relation_fst]
      rfl
  | surface t c =>
      cases c with
      | install i code =>
          simp only [step, stepSurface]
          split <;> rfl
      | _ => rfl
  | device t h c =>
      simp only [step, stepDevice]
      split <;> rfl

/- A slot is put aside only by a step that says so. -/
theorem eq_copy_of_visit?
    {bench : Bench n m}
    {s : Step n m}
    {b : Fin n}
    {i : SlotIndex}
    {name : String}
    (hVisit : bench.visit? s = some ((b, i), .save name)) :
    s = .copy b i (.save name) := by
  cases visiting_of_visit? hVisit with
  | save _ => rfl

theorem step_save
    (bench : Bench n m)
    (b : Fin n)
    (i : SlotIndex)
    (name : String) :
    bench.step (.copy b i (.save name)) =
      (bench.saveCopy name (bench.slot b i),
        { answer := .value .unit }) := by
  simp only [step, stepCopy, Bay.index?_of_lt i.isLt]

theorem copy?_saveCopy
    (bench : Bench n m)
    (name other : String)
    (slot : Slot) :
    (bench.saveCopy name slot).copy? other =
      if name = other then some slot else bench.copy? other := by
  rw [copy?, saveCopy, copy?, List.find?_cons]
  by_cases hSame : name = other
  · simp [hSame]
  · have hDiffers : (name == other) = false := by simp [hSame]
    rw [if_neg hSame, hDiffers]

theorem copy?_of_save
    {bench : Bench n m}
    {s : Step n m}
    {b : Fin n}
    {i : SlotIndex}
    {name : String}
    (hVisit : bench.visit? s = some ((b, i), .save name))
    (other : String) :
    (bench.step s).1.copy? other =
      if name = other then some (bench.slot b i)
      else bench.copy? other := by
  rw [eq_copy_of_visit? hVisit, step_save, copy?_saveCopy]

theorem copy?_of_no_save
    {bench : Bench n m}
    {s : Step n m}
    (hVisit :
      ∀ place name, bench.visit? s ≠ some (place, .save name)) :
    (bench.step s).1.copy? = bench.copy? := by
  have hCopies : (bench.step s).1.copies = bench.copies := by
    rw [step_copies]
    unfold copiesAfter
    split
    · rename_i b i name
      split
      · rename_i hIndex
        apply absurd _ (hVisit (b, ⟨i, hIndex⟩) name)
        simp [visit?, place?, use?, DirectoryCall.handle?,
          Bay.index?_of_lt hIndex, Except.toOption]
      · rfl
    · rfl
  funext name
  rw [copy?, copy?, hCopies]

end Bench

end DeviceBay
