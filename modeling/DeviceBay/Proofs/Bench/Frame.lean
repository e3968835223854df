import DeviceBay.Bench.Step
import DeviceBay.Proofs.Slot.Coherence
import DeviceBay.Proofs.Surface.Typed

/-
  This file proves what a step of a bench leaves alone: a step
  on one slot changes no other slot, and whatever a step does
  to a slot is one of the changes that an operation can make.

  Key definitions include:
    * `Bench.Looked`

  Main declarations:
    * `Bench.slot_setSlot_of_ne`
    * `Bench.setSlot_slot`
    * `Bench.settle_slot`
    * `Bench.stepSlot_eq`
    * `Bench.stepDevice_eq`
    * `DeviceCall.run_change`
    * `Bench.step_change`
-/

namespace DeviceBay

------------------------------------------------------------
-- One slot at a time
------------------------------------------------------------

theorem Bay.index?_of_lt
    {i : Nat}
    (hIndex : i < slotCount) :
    index? i = .ok ⟨i, hIndex⟩ := by
  rw [index?, dif_pos hIndex]

theorem Bay.index?_of_not_lt
    {i : Nat}
    (hIndex : ¬ i < slotCount) :
    index? i = .error (.outOfRange i) := by
  rw [index?, dif_neg hIndex]

namespace Bench

variable {n m : Nat}

theorem slot_setSlot_self
    (bench : Bench n m)
    (b : Fin n)
    (i : SlotIndex)
    (slot : Slot) :
    (bench.setSlot b i slot).slot b i = slot := by
  simp [Bench.slot, Bench.bay, setSlot]

theorem slot_setSlot_of_ne
    (bench : Bench n m)
    (b d : Fin n)
    (i j : SlotIndex)
    (slot : Slot)
    (hNe : (b, i) ≠ (d, j)) :
    (bench.setSlot b i slot).slot d j = bench.slot d j := by
  by_cases hBay : b = d
  · subst hBay
    have hIndex : i ≠ j := fun hEq => hNe (by rw [hEq])
    have hOther :=
      (bench.bay b).slot_setSlot_of_ne i j slot hIndex
    simpa [Bench.slot, Bench.bay, setSlot] using hOther
  · have hVal : b.val ≠ d.val := fun hEq => hBay (Fin.ext hEq)
    simp [Bench.slot, Bench.bay, setSlot,
      Vector.getElem_set_ne, hVal]

/- Putting back what is there changes nothing. -/
theorem setSlot_slot
    (bench : Bench n m)
    (b : Fin n)
    (i : SlotIndex) :
    bench.setSlot b i (bench.slot b i) = bench := by
  have hBay :
      (bench.bay b).setSlot i (bench.slot b i) =
        bench.bay b := by
    simp [Bench.slot, Bay.slot, Bay.setSlot]
  rw [setSlot, hBay]
  simp [bay]

theorem setErrno_errno
    (bench : Bench n m)
    (s : Fin m) :
    bench.setErrno s (bench.surface s).errno = bench := by
  have hSurface :
      { bench.surface s with errno := (bench.surface s).errno } =
        bench.surface s :=
    rfl
  rw [setErrno, hSurface]
  simp [surface]

theorem settle_slot
    (bench : Bench n m)
    (b : Fin n)
    (i : SlotIndex) :
    bench.settle b i (bench.slot b i) bench.clock = bench := by
  rw [settle, setSlot_slot]

/- A slot that an operation left alone leaves the bays alone. -/
theorem setSlot_bays_of_eq
    (bench : Bench n m)
    (b : Fin n)
    (i : SlotIndex)
    {slot : Slot}
    (hSlot : slot = bench.slot b i) :
    (bench.setSlot b i slot).bays = bench.bays := by
  rw [hSlot, setSlot_slot]

/- Only the slot that an operation was on can have changed. -/
theorem setSlot_change
    (bench : Bench n m)
    (b d : Fin n)
    (i j : SlotIndex)
    {slot : Slot}
    (hChange : (bench.slot b i).Change slot) :
    (bench.slot d j).Change ((bench.setSlot b i slot).slot d j) := by
  by_cases hSame : (b, i) = (d, j)
  · cases hSame
    rw [slot_setSlot_self]
    exact hChange
  · rw [slot_setSlot_of_ne bench b d i j slot hSame]
    exact .keep

end Bench

------------------------------------------------------------
-- Raw calls
------------------------------------------------------------

theorem RawMotorCall.run_change
    (env : Env)
    (clock : Clock)
    (slot : Slot)
    (errno : Errno)
    (c : RawMotorCall) :
    slot.Change (c.run env clock slot errno).slot := by
  cases hTyped : c.typed with
  | ok call =>
      rw [run_of_typed env clock slot errno hTyped,
        RawReply.settle_slot]
      exact call.run_change env clock slot
  | error e =>
      rw [run_of_undecoded env clock slot errno hTyped]
      split
      · exact .keep
      · exact .keep

theorem DeviceCall.run_change
    (env : Env)
    (clock : Clock)
    (slot : Slot)
    (errno : Errno)
    (c : DeviceCall) :
    slot.Change (c.run env clock slot errno).slot := by
  cases c with
  | timestamp => exact .keep
  | radio c => exact .keep
  | motor c => exact c.run_change env clock slot errno
  | imu c =>
      simp only [DeviceCall.run, RawImuCall.run_eq,
        RawReply.settle_slot]
      exact c.typed.run_change env clock slot

------------------------------------------------------------
-- Steps
------------------------------------------------------------

namespace Bench

variable {n m : Nat}

theorem stepSlot_eq
    {bench : Bench n m}
    {b : Fin n}
    {i : SlotIndex}
    {c : SlotCall}
    {reply : Reply Failure Value}
    (hReply :
      c.run (bench.env b) bench.clock (bench.slot b i) = reply) :
    bench.step (.slot b i c) =
      (bench.settle b i reply.slot reply.clock,
        { answer := .ofResult reply.result
          readings := reply.readings
          events := reply.events }) := by
  subst hReply
  simp only [step, stepSlot, Bay.index?_of_lt i.isLt]

theorem stepDevice_eq
    {bench : Bench n m}
    {s : Fin m}
    {h : Handle n}
    {b : Fin n}
    {i : SlotIndex}
    {c : DeviceCall}
    {reply : RawReply}
    (hHandle : bench.resolve s h = some (b, i))
    (hReply :
      c.run (bench.env b) bench.clock (bench.slot b i)
          (bench.surface s).errno = reply) :
    bench.step (.device s h c) =
      ((bench.settle b i reply.slot reply.clock).setErrno s
          reply.errno,
        { answer := .raw reply.value reply.errno
          readings := reply.readings
          events := reply.events }) := by
  subst hReply
  simp only [step, stepDevice, hHandle]

/-
  What a step leaves that only looks at slots: bays and
  surfaces as before, and no report.
-/
structure Looked
    (bench : Bench n m)
    (result : Bench n m × Outcome) : Prop where
  bays : result.1.bays = bench.bays
  surfaces : result.1.surfaces = bench.surfaces
  events : result.2.events = []

theorem Looked.slot
    {bench : Bench n m}
    {result : Bench n m × Outcome}
    (hLooked : bench.Looked result)
    (b : Fin n)
    (i : SlotIndex) :
    result.1.slot b i = bench.slot b i := by
  rw [Bench.slot, Bench.slot, Bench.bay, Bench.bay, hLooked.bays]

theorem looked_self
    (bench : Bench n m)
    (answer : Answer) :
    bench.Looked (bench, { answer := answer }) :=
  ⟨rfl, rfl, rfl⟩

theorem stepBay_looked
    (bench : Bench n m)
    (b : Fin n)
    (c : BayCall) :
    bench.Looked (bench.stepBay b c) := by
  cases c
  case now => exact ⟨rfl, rfl, rfl⟩
  all_goals exact bench.looked_self _

theorem stepCopy_looked
    (bench : Bench n m)
    (b : Fin n)
    (i : Nat)
    (c : CopyCall) :
    bench.Looked (bench.stepCopy b i c) := by
  unfold stepCopy
  split
  · exact bench.looked_self _
  · cases c with
    | save name => exact ⟨rfl, rfl, rfl⟩
    | compare name =>
        dsimp only
        split
        · exact bench.looked_self _
        · exact bench.looked_self _

theorem stepRelation_looked
    (bench : Bench n m)
    (b : Fin n)
    (i : Nat)
    (c : HandleRelation n) :
    bench.Looked (bench.stepRelation b i c) := by
  unfold stepRelation
  split
  · exact bench.looked_self _
  · cases c with
    | deviceCount => exact bench.looked_self _
    | same other k =>
        dsimp only
        split
        · exact bench.looked_self _
        · exact bench.looked_self _

theorem stepSlot_change
    (bench : Bench n m)
    (b d : Fin n)
    (i : Nat)
    (j : SlotIndex)
    (c : SlotCall) :
    (bench.slot d j).Change
      ((bench.stepSlot b i c).1.slot d j) := by
  unfold stepSlot
  split
  · exact .keep
  · rename_i index hIndex
    exact bench.setSlot_change b d index j
      (c.run_change (bench.env b) bench.clock (bench.slot b index))

theorem stepSurface_change
    (bench : Bench n m)
    (s : Fin m)
    (d : Fin n)
    (j : SlotIndex)
    (c : SurfaceCall) :
    (bench.slot d j).Change
      ((bench.stepSurface s c).1.slot d j) := by
  cases c with
  | errno c => exact .keep
  | bayCount => exact .keep
  | describe => exact .keep
  | install i code =>
      simp only [stepSurface]
      split
      · exact .keep
      · exact bench.setSlot_change _ d _ j (.presence _)
  | directory c => exact .keep

theorem stepDevice_change
    (bench : Bench n m)
    (s : Fin m)
    (h : Handle n)
    (d : Fin n)
    (j : SlotIndex)
    (c : DeviceCall) :
    (bench.slot d j).Change
      ((bench.stepDevice s h c).1.slot d j) := by
  unfold stepDevice
  dsimp only
  split
  · exact .keep
  · exact bench.setSlot_change _ d _ j (c.run_change _ _ _ _)

/- Every step makes one of the known changes to every slot. -/
theorem step_change
    (bench : Bench n m)
    (s : Step n m)
    (b : Fin n)
    (i : SlotIndex) :
    (bench.slot b i).Change ((bench.step s).1.slot b i) := by
  cases s with
  | clock c => exact .keep
  | owner c => exact .keep
  | bay d c =>
      rw [step, (bench.stepBay_looked d c).slot]
      exact .keep
  | slot d j c => exact bench.stepSlot_change d b j i c
  | copy d j c =>
      rw [step, (bench.stepCopy_looked d j c).slot]
      exact .keep
  | relation d j c =>
      rw [step, (bench.stepRelation_looked d j c).slot]
      exact .keep
  | surface s c => exact bench.stepSurface_change s b i c
  | device s h c => exact bench.stepDevice_change s h b i c

end Bench

end DeviceBay
