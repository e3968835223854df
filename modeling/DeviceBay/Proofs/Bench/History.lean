import DeviceBay.Proofs.Bench.Target
import Mathlib.Data.List.DropRight

/-
  This file defines the history of a run: every step that was
  taken, with the bench that it was taken on. It proves how a
  law about one step becomes one about histories: what is
  written by some steps only is as the last of them left it,
  and what holds after a step holds until a step breaks it.

  Key definitions include:
    * `Moment`
    * `Moment.callOn?`
    * `Moment.installs`
    * `Bench.History`
    * `Bench.since`
    * `Bench.lastWrite?`
    * `Bench.readings`
    * `Bench.moments`

  Main declarations:
    * `Moment.exists_callOn?_of_stateReport`
    * `Bench.History.eq_last_write`
    * `Bench.History.eq_last_write_ever`
    * `Bench.History.upTo`
    * `Bench.History.follows_since`
    * `Bench.History.holds_since`
    * `Bench.History.run`
-/

namespace DeviceBay

------------------------------------------------------------
-- Moments
------------------------------------------------------------

/- A step, and the bench that it is taken on. -/
structure Moment (n m : Nat) where
  bench : Bench n m
  step : Step n m

namespace Moment

variable {n m : Nat}

def after
    (x : Moment n m) : Bench n m :=
  (x.bench.step x.step).1

def outcome
    (x : Moment n m) : Outcome :=
  (x.bench.step x.step).2

/- The operation that is run on one slot. -/
def callOn?
    (b : Fin n)
    (i : SlotIndex)
    (x : Moment n m) : Option SlotCall :=
  x.bench.callOn? b i x.step

/- Whether a fresh device is put into one slot. -/
def installs
    (b : Fin n)
    (i : SlotIndex)
    (x : Moment n m) : Bool :=
  (x.callOn? b i).any SlotCall.installs

theorem installs_of_callOn?
    {b : Fin n}
    {i : SlotIndex}
    {c : SlotCall}
    {x : Moment n m}
    (hCall : x.callOn? b i = some c) :
    x.installs b i = c.installs := by
  rw [installs, hCall, Option.any_some]

theorem slot_after
    {b : Fin n}
    {i : SlotIndex}
    {c : SlotCall}
    {x : Moment n m}
    (hCall : x.callOn? b i = some c) :
    x.after.slot b i =
      (c.effect (x.bench.env b) x.bench.clock
        (x.bench.slot b i)).apply (x.bench.slot b i) :=
  Bench.slot_of_callOn? hCall

theorem slot_after_of_none
    {b : Fin n}
    {i : SlotIndex}
    {x : Moment n m}
    (hCall : x.callOn? b i = none) :
    x.after.slot b i = x.bench.slot b i :=
  Bench.slot_of_callOn?_eq_none hCall

/- Every report of a state comes from an operation on some slot. -/
theorem exists_callOn?_of_stateReport
    {event : Event}
    {x : Moment n m}
    (hMember : event ∈ x.outcome.events)
    (hReport : event.isStateReport = true) :
    ∃ d j c, x.callOn? d j = some c := by
  have hFiltered :
      event ∈ x.outcome.events.filter Event.isStateReport :=
    List.mem_filter.mpr ⟨hMember, hReport⟩
  cases hTarget : x.bench.target? x.step with
  | none =>
      rw [outcome, (Bench.idles_of_target? hTarget).stateReports]
        at hFiltered
      cases hFiltered
  | some target =>
      rcases target with ⟨⟨d, j⟩, c⟩
      exact ⟨d, j, c,
        (Bench.callOn?_eq_some_iff _ _ _ _ _).mpr hTarget⟩

end Moment

namespace Bench

variable {n m : Nat}

------------------------------------------------------------
-- Histories
------------------------------------------------------------

/-
  A bench that a run of any length leads to, after all the
  moments of the run in order. Between two steps the clock may
  be exchanged for any other, so that the readings of a run are
  bound by no law.
-/
inductive History : List (Moment n m) → Bench n m → Prop
  | fresh (clock : Clock) (configs : Vector Config n)
      (views : Vector (Fin n) m) :
      History [] (fresh clock configs views)
  | step {past : List (Moment n m)} {bench : Bench n m}
      (hPast : History past bench) (s : Step n m) :
      History (past ++ [⟨bench, s⟩]) (bench.step s).1
  | exchange {past : List (Moment n m)} {bench : Bench n m}
      (hPast : History past bench) (clock : Clock) :
      History past { bench with clock := clock }

/- The moments after the last one that starts a matter afresh. -/
def since
    (restarts : Moment n m → Bool)
    (past : List (Moment n m)) : List (Moment n m) :=
  past.rtakeWhile (fun x => !restarts x)

/- What the last of the moments wrote that wrote anything. -/
def lastWrite?
    {α : Type}
    (write? : Moment n m → Option α)
    (past : List (Moment n m)) : Option α :=
  (past.filterMap write?).getLast?

/- All readings of the clock that were taken, in order. -/
def readings
    (past : List (Moment n m)) : List Instant :=
  past.flatMap (fun x => x.outcome.readings)

theorem since_concat
    (restarts : Moment n m → Bool)
    (past : List (Moment n m))
    (x : Moment n m) :
    since restarts (past ++ [x]) =
      if restarts x then [] else since restarts past ++ [x] := by
  rw [since, List.rtakeWhile_concat]
  cases restarts x <;> rfl

theorem lastWrite?_concat
    {α : Type}
    (write? : Moment n m → Option α)
    (past : List (Moment n m))
    (x : Moment n m) :
    lastWrite? write? (past ++ [x]) =
      (write? x).or (lastWrite? write? past) := by
  cases hWrite : write? x with
  | none => simp [lastWrite?, hWrite]
  | some value => simp [lastWrite?, hWrite]

theorem readings_concat
    (past : List (Moment n m))
    (x : Moment n m) :
    readings (past ++ [x]) = readings past ++ x.outcome.readings := by
  simp [readings]

namespace History

variable {past before after : List (Moment n m)}
variable {bench : Bench n m} {x : Moment n m}

theorem reachable
    (hPast : History past bench) :
    bench.Reachable := by
  induction hPast with
  | fresh clock configs views => exact .fresh clock configs views
  | step _ s ih => exact ih.step s
  | exchange _ clock ih => exact ih.exchange clock

theorem coherent
    (hPast : History past bench) :
    bench.Coherent :=
  hPast.reachable.coherent

------------------------------------------------------------
-- What was written last
------------------------------------------------------------

/-
  Something about a bench that each step either starts afresh,
  or writes, or leaves alone, is what was written last since it
  was last started afresh.
-/
theorem eq_last_write
    {α : Type}
    {f : Bench n m → α}
    {restarts : Moment n m → Bool}
    {write? : Moment n m → Option α}
    {initial : α}
    (hFresh :
      ∀ clock configs views,
        f (Bench.fresh clock configs views) = initial)
    (hRestart :
      ∀ x : Moment n m, x.bench.Coherent →
        restarts x = true → f x.after = initial)
    (hStep :
      ∀ x : Moment n m, x.bench.Coherent →
        restarts x = false →
          f x.after = (write? x).getD (f x.bench))
    (hExchange :
      ∀ (bench : Bench n m) (clock : Clock),
        f { bench with clock := clock } = f bench)
    (hPast : History past bench) :
    f bench =
      (lastWrite? write? (since restarts past)).getD initial := by
  induction hPast with
  | fresh clock configs views => exact hFresh clock configs views
  | exchange _ clock ih => exact (hExchange _ clock).trans ih
  | @step past bench hPast s ih =>
      have hBench := hPast.coherent
      rw [since_concat]
      cases hAfresh : restarts ⟨bench, s⟩ with
      | true => exact hRestart ⟨bench, s⟩ hBench hAfresh
      | false =>
          have hCell := hStep ⟨bench, s⟩ hBench hAfresh
          calc
            f (bench.step s).1
                = (write? ⟨bench, s⟩).getD (f bench) := hCell
            _ = (write? ⟨bench, s⟩).getD
                  ((lastWrite? write?
                    (since restarts past)).getD initial) := by
                rw [ih]
            _ = (lastWrite? write?
                  (since restarts past ++ [⟨bench, s⟩])).getD
                  initial := by
                rw [lastWrite?_concat]
                cases write? ⟨bench, s⟩ <;> rfl

/- What is never started afresh is what was ever written last. -/
theorem eq_last_write_ever
    {α : Type}
    {f : Bench n m → α}
    {write? : Moment n m → Option α}
    {initial : α}
    (hFresh :
      ∀ clock configs views,
        f (Bench.fresh clock configs views) = initial)
    (hStep :
      ∀ x : Moment n m, x.bench.Coherent →
        f x.after = (write? x).getD (f x.bench))
    (hExchange :
      ∀ (bench : Bench n m) (clock : Clock),
        f { bench with clock := clock } = f bench)
    (hPast : History past bench) :
    f bench = (lastWrite? write? past).getD initial := by
  have hSince : since (fun _ => false) past = past := by
    apply List.rtakeWhile_eq_self_iff.mpr
    intro x hMember
    rfl
  have hLast :
      f bench =
        (lastWrite? write? (since (fun _ => false) past)).getD
          initial := by
    apply hPast.eq_last_write hFresh
    · intro x _ hRestart
      cases hRestart
    · intro x hBench _
      exact hStep x hBench
    · exact hExchange
  rw [hSince] at hLast
  exact hLast

------------------------------------------------------------
-- Parts of a history
------------------------------------------------------------

/- Each moment of a history has a history of its own. -/
theorem upTo
    (hPast : History (before ++ x :: after) bench) :
    History before x.bench := by
  generalize hAll : before ++ x :: after = past at hPast
  induction hPast generalizing after with
  | fresh clock configs views => simp at hAll
  | exchange _ clock ih => exact ih hAll
  | @step past bench hPast s ih =>
      rcases List.eq_nil_or_concat after with hNil | ⟨rest, y, hRest⟩
      · subst hNil
        have hParts := List.append_inj' hAll rfl
        rw [hParts.1, List.head_eq_of_cons_eq hParts.2]
        exact hPast
      · subst hRest
        have hSplit :
            (before ++ x :: rest) ++ [y] = past ++ [⟨bench, s⟩] := by
          simpa using hAll
        exact ih (List.append_inj' hSplit rfl).1

theorem coherent_of_mem
    (hPast : History past bench)
    (hMember : x ∈ past) :
    x.bench.Coherent := by
  rcases List.append_of_mem hMember with ⟨before, after, rfl⟩
  exact hPast.upTo.coherent

/-
  What holds after some moment, and is carried on by each
  moment since then, holds of all the moments since then.
-/
theorem follows_since
    {P : List (Moment n m) → Bench n m → Prop}
    (hBegin : P [] x.after)
    (hCarry :
      ∀ seen, ∀ y ∈ after, y.bench.Coherent →
        P seen y.bench → P (seen ++ [y]) y.after)
    (hExchange :
      ∀ seen (bench : Bench n m) (clock : Clock),
        P seen bench → P seen { bench with clock := clock })
    (hPast : History (before ++ x :: after) bench) :
    P after bench := by
  generalize hAll : before ++ x :: after = past at hPast
  induction hPast generalizing after with
  | fresh clock configs views => simp at hAll
  | exchange _ clock ih => exact hExchange _ _ clock (ih hCarry hAll)
  | @step past bench hPast s ih =>
      rcases List.eq_nil_or_concat after with hNil | ⟨rest, y, hRest⟩
      · subst hNil
        have hLast :=
          List.head_eq_of_cons_eq (List.append_inj' hAll rfl).2
        rw [hLast] at hBegin
        exact hBegin
      · subst hRest
        have hSplit :
            (before ++ x :: rest) ++ [y] = past ++ [⟨bench, s⟩] := by
          simpa using hAll
        have hParts := List.append_inj' hSplit rfl
        have hLast := List.head_eq_of_cons_eq hParts.2
        subst hLast
        have hBench : P rest bench := by
          apply ih _ hParts.1
          intro seen z hMember
          exact hCarry seen z (by simp [hMember])
        rw [List.concat_eq_append]
        exact hCarry rest ⟨bench, s⟩ (by simp) hPast.coherent hBench

/-
  What holds after some moment still holds if each moment since
  then has kept it.
-/
theorem holds_since
    {P : Bench n m → Prop}
    (hBegin : P x.after)
    (hKeep :
      ∀ y ∈ after, y.bench.Coherent → P y.bench → P y.after)
    (hExchange :
      ∀ (bench : Bench n m) (clock : Clock),
        P bench → P { bench with clock := clock })
    (hPast : History (before ++ x :: after) bench) :
    P bench :=
  hPast.follows_since (P := fun _ => P) hBegin
    (fun _ => hKeep) (fun _ => hExchange)

end History

------------------------------------------------------------
-- Runs of steps
------------------------------------------------------------

/- The moments of a run from a bench. -/
def moments
    (bench : Bench n m) : List (Step n m) → List (Moment n m)
  | [] => []
  | s :: rest => ⟨bench, s⟩ :: (bench.step s).1.moments rest

/- A run makes its moments part of the history. -/
theorem History.run
    {past : List (Moment n m)}
    {bench : Bench n m}
    (hPast : History past bench)
    (steps : List (Step n m)) :
    History (past ++ bench.moments steps) (bench.run steps).1 := by
  induction steps generalizing past bench with
  | nil => simpa [moments, Bench.run] using hPast
  | cons s rest ih =>
      have hRest := ih (hPast.step s)
      rw [List.append_assoc] at hRest
      exact hRest

end Bench

end DeviceBay
