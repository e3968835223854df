import DeviceBay.Proofs.Bench.Locality
import DeviceBay.Proofs.Slot.Restamped

/-
  This file compares what a use does to two slots that differ
  in nothing but their timestamps, raw calls included, and says
  of a step that visits a slot which operation it runs there
  and how it fails.

  Key definitions include:
    * `DeviceCall.reportsStamp`
    * `SlotUse.reportsStamp`
    * `SlotUse.call?`
    * `SlotUse.failure?`

  Main declarations:
    * `DeviceCall.run_agrees`
    * `SlotUse.run_agrees`
    * `Bench.effectOn_of_visit?`
    * `Bench.failure?_of_visit?`
-/

namespace DeviceBay

------------------------------------------------------------
-- Raw calls
------------------------------------------------------------

def DeviceCall.reportsStamp : DeviceCall → Bool
  | .timestamp => true
  | c => c.driverCall?.any SlotCall.reportsStamp

/- Replies that agree do so in their raw form. -/
theorem RawReply.settle_agrees
    {α : Type}
    {reports : Bool}
    {left right : Reply SlotError α}
    (errno : Errno)
    (failure : Value)
    (render : α → Value)
    (hAgrees : left.Agrees reports right) :
    (settle errno failure render left).plainly.Agrees reports
      (settle errno failure render right).plainly := by
  rcases cases_of_verdict hAgrees.verdict with
    ⟨e, hLeft, hRight⟩ | ⟨value, other, hLeft, hRight⟩
  · rw [settle_of_error errno failure render hLeft,
      settle_of_error errno failure render hRight,
      hAgrees.clock, hAgrees.readings, hAgrees.events]
    exact .of_eq hAgrees.slot rfl
  · rw [settle_of_ok errno failure render hLeft,
      settle_of_ok errno failure render hRight]
    have hResult := hAgrees.result
    rw [hLeft, hRight] at hResult
    constructor
    case result =>
      intro hSilent
      cases hResult hSilent
      rfl
    case verdict => rfl
    case slot => exact hAgrees.slot
    case clock => exact hAgrees.clock
    case readings => exact hAgrees.readings
    case events => exact hAgrees.events

section Uses

variable {a b : Slot} (hSame : a.SameButStamp b)
variable (env : Env) (clock : Clock)

include hSame

theorem DeviceCall.run_agrees
    (c : DeviceCall) :
    (c.run env clock a .clear).plainly.Agrees c.reportsStamp
      (c.run env clock b .clear).plainly := by
  cases c with
  | timestamp =>
      constructor
      case result => exact nofun
      case slot => exact hSame
      all_goals rfl
  | radio c =>
      simp only [DeviceCall.run, RawRadioCall.run, hSame.index]
      exact .of_eq hSame rfl
  | motor c =>
      cases hTyped : c.typed with
      | ok call =>
          have hReports :
              (DeviceCall.motor c).reportsStamp =
                (SlotCall.motor call).reportsStamp := by
            simp only [reportsStamp, driverCall?, hTyped]
            rfl
          simp only [DeviceCall.run, hReports,
            c.run_of_typed env clock _ _ hTyped]
          exact RawReply.settle_agrees _ _ _
            (call.run_agrees hSame env clock)
      | error e =>
          have hReports :
              (DeviceCall.motor c).reportsStamp = false := by
            simp only [reportsStamp, driverCall?, hTyped]
            rfl
          simp only [DeviceCall.run, hReports,
            c.run_of_undecoded env clock _ _ hTyped,
            hSame.validate]
          split
          · apply RawReply.settle_agrees
            exact Reply.still_agrees_of_eq hSame clock rfl
          · exact .of_eq hSame rfl
  | imu c =>
      simp only [DeviceCall.run, c.run_eq]
      exact RawReply.settle_agrees _ _ _
        (c.typed.run_agrees hSame env clock)

/- A raw call fails as its guard does. -/
theorem DeviceCall.failure?_sameButStamp
    (c : DeviceCall) :
    c.failure? b = c.failure? a := by
  cases c with
  | timestamp => rfl
  | radio c => rfl
  | motor c => simp only [failure?, hSame.validate]
  | imu c => simp only [failure?, hSame.validate]

end Uses

------------------------------------------------------------
-- Uses of a slot
------------------------------------------------------------

namespace SlotUse

/-
  Whether the answer to a use may depend on the timestamp. To
  compare a slot is to look at its timestamp, too.
-/
def reportsStamp : SlotUse → Bool
  | .call c => c.reportsStamp
  | .raw c => c.reportsStamp
  | .stampCode => true
  | .compare _ => true
  | _ => false

/- The operation that a use runs, if it runs any. -/
def call? : SlotUse → Option SlotCall
  | .call c => some c
  | .raw c => c.driverCall?
  | _ => none

/- How a use fails that is a failing raw call. -/
def failure?
    (slot : Slot) : SlotUse → Option RawFailure
  | .raw c => c.failure? slot
  | _ => none

theorem run_agrees
    {a b : Slot}
    (hSame : a.SameButStamp b)
    (env : Env)
    (clock : Clock)
    (left right : String → Option Slot)
    (u : SlotUse) :
    (u.run env clock a left).Agrees u.reportsStamp
      (u.run env clock b right) := by
  cases u with
  | call c => exact c.run_agrees hSame env clock
  | raw c => exact c.run_agrees hSame env clock
  | stampCode => exact Reply.still_agrees_of_ok hSame clock _ _
  | settled result =>
      exact Reply.still_agrees_of_eq hSame clock rfl
  | save name => exact Reply.still_agrees_of_eq hSame clock rfl
  | compare name =>
      exact Reply.still_agrees_of_ok hSame clock _ _

end SlotUse

namespace Bench

variable {n m : Nat}
variable {bench : Bench n m} {s : Step n m}
variable {b : Fin n} {i : SlotIndex} {u : SlotUse}

/- A visit runs on the slot what its use runs. -/
theorem callOn?_of_visit?
    (hVisit : bench.visit? s = some ((b, i), u)) :
    bench.callOn? b i s = u.call? := by
  cases visiting_of_visit? hVisit with
  | slot c => exact bench.callOn?_slot b i c
  | install t code hView =>
      subst hView
      apply (bench.callOn?_eq_some_iff _ i _ _).mpr
      simp [target?]
  | device t h c hHandle =>
      simp only [callOn?, target?, hHandle, SlotUse.call?]
      cases c.driverCall? with
      | none => rfl
      | some call => simp
  | _ => rfl

theorem effectOn_of_visit?
    (hVisit : bench.visit? s = some ((b, i), u)) :
    bench.effectOn b i s =
      match u.call? with
      | none => .nothing
      | some c =>
          c.effect (bench.env b) bench.clock (bench.slot b i) := by
  have hCall := callOn?_of_visit? hVisit
  cases hUse : u.call? with
  | none => simp only [effectOn, hCall, hUse]
  | some c => simp only [effectOn, hCall, hUse]

/- It fails as a raw call only if its use does. -/
theorem failure?_of_visit?
    (hVisit : bench.visit? s = some ((b, i), u)) :
    (bench.failure? s).map Prod.snd =
      u.failure? (bench.slot b i) := by
  cases visiting_of_visit? hVisit with
  | install t code hView => simp [failure?, SlotUse.failure?]
  | device t h c hHandle =>
      simp only [failure?, hHandle, SlotUse.failure?]
      cases c.failure? (bench.slot b i) <;> rfl
  | _ => rfl

theorem owners_of_visit?
    (hVisit : bench.visit? s = some ((b, i), u)) :
    (bench.step s).1.owners = bench.owners := by
  rw [step_owners]
  cases visiting_of_visit? hVisit <;> rfl

end Bench

end DeviceBay
