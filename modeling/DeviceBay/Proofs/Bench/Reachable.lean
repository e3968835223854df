import DeviceBay.Proofs.Bench.Frame

/-
  This file defines the benches that runs lead to and proves
  that all of their slots are coherent.

  Key definitions include:
    * `Bench.Reachable`
    * `Bench.Coherent`

  Main declarations:
    * `Bench.step_coherent`
    * `Bench.Reachable.coherent`
    * `Bench.Reachable.run`
-/

namespace DeviceBay

namespace Bench

variable {n m : Nat}

/-
  The benches that a run of any length leads to. Between two
  steps the clock may be exchanged for any other, so that the
  readings of a run are bound by no law.
-/
inductive Reachable : Bench n m → Prop
  | fresh (clock : Clock) (configs : Vector Config n)
      (views : Vector (Fin n) m) :
      Reachable (fresh clock configs views)
  | step {bench : Bench n m} (hReach : Reachable bench)
      (s : Step n m) :
      Reachable (bench.step s).1
  | exchange {bench : Bench n m} (hReach : Reachable bench)
      (clock : Clock) :
      Reachable { bench with clock := clock }

/- Every slot is in its place and fits its type. -/
def Coherent
    (bench : Bench n m) : Prop :=
  ∀ b i, (bench.slot b i).Coherent i

theorem fresh_slot
    (clock : Clock)
    (configs : Vector Config n)
    (views : Vector (Fin n) m)
    (b : Fin n)
    (i : SlotIndex) :
    (fresh clock configs views).slot b i = { index := i } := by
  simp [Bench.slot, Bench.bay, Bay.slot, fresh, Bay.fresh]

theorem fresh_coherent
    (clock : Clock)
    (configs : Vector Config n)
    (views : Vector (Fin n) m) :
    (fresh clock configs views).Coherent := by
  intro b i
  rw [fresh_slot]
  exact ⟨rfl, rfl⟩

theorem step_coherent
    {bench : Bench n m}
    (hBench : bench.Coherent)
    (s : Step n m) :
    (bench.step s).1.Coherent := by
  intro b i
  exact (bench.step_change s b i).coherent (hBench b i)

/- Coherence holds at the start and survives every step. -/
theorem Reachable.coherent
    {bench : Bench n m}
    (hReach : bench.Reachable) :
    bench.Coherent := by
  induction hReach with
  | fresh clock configs views =>
      exact fresh_coherent clock configs views
  | step _ s ih => exact step_coherent ih s
  | exchange _ clock ih => exact ih

theorem Reachable.run
    {bench : Bench n m}
    (hReach : bench.Reachable)
    (steps : List (Step n m)) :
    (bench.run steps).1.Reachable := by
  induction steps generalizing bench with
  | nil => exact hReach
  | cons s rest ih => exact ih (hReach.step s)

/-
  A bench with one device, whose type has the code of a motor
  and still is no motor.
-/
def counterfeit : Bench 1 1 :=
  let start : Bench 1 1 :=
    fresh (.manual ⟨7⟩) (Vector.replicate 1 {}) #v[0]
  (start.step (.slot 0 4 (.presence (.plugIn (.unknown 2))))).1

theorem counterfeit_reachable :
    counterfeit.Reachable :=
  .step (.fresh _ _ _) _

theorem counterfeit_slot :
    (counterfeit.slot 0 ⟨4, by decide⟩).present = true ∧
    (counterfeit.slot 0 ⟨4, by decide⟩).deviceType =
      some (.unknown 2) := by
  decide +kernel

end Bench

end DeviceBay
