import DeviceBay.Proofs.Bench.Reachable

/-
  This file proves what can be told from the code that a raw
  surface answers for the timestamp of the slot with a number.
  The code is a signed word, and a timestamp is not: the last
  reading that a clock can show has the code that also stands
  for a number without a slot. Any other code stands for one
  timestamp only, and read without its sign it is always the
  timestamp that a handle of the slot tells.

  Key definitions include:
    * `Instant.code`
    * `Bench.codeAnswer`

  Main declarations:
    * `Instant.code_eq_iff`
    * `Bench.codeAnswer_of_slot`
    * `Bench.timestamp_codes_tell_the_stamp`
    * `Bench.timestamp_code_is_ambiguous`
-/

namespace DeviceBay

------------------------------------------------------------
-- Codes of timestamps
------------------------------------------------------------

namespace Instant

/- The word of a reading, taken to have a sign. -/
def code
    (t : Instant) : Int32 :=
  t.millis.toInt32

/- Without its sign the word is the reading again. -/
theorem toNat_code
    (t : Instant) :
    t.code.toUInt32.toNat = t.toNat := by
  rw [code, UInt32.toUInt32_toInt32, toNat]

theorem code_inj
    {s t : Instant}
    (hCode : s.code = t.code) :
    s = t := by
  apply toNat_inj
  rw [← toNat_code s, ← toNat_code t, hCode]

/- One reading only has the code of no reading at all. -/
theorem code_eq_iff
    (t : Instant) :
    t.code = -1 ↔ t.toNat = last := by
  have hLast : (⟨4294967295⟩ : Instant).code = -1 := by
    decide
  constructor
  · intro hCode
    rw [← hLast] at hCode
    rw [code_inj hCode]
    rfl
  · intro hNat
    rw [← hLast]
    exact congrArg code (toNat_inj hNat)

end Instant

namespace DirectoryCall

theorem timestampCode_of_slot
    (bay : Bay)
    (i : SlotIndex) :
    timestampCode bay i.val = (bay.slot i).timestamp.code := by
  have hSign : ¬ (i.val : Int) < 0 := by
    omega
  simp only [timestampCode, if_neg hSign, Bay.timestampAt,
    Int.toNat_natCast, Bay.index?_of_lt i.isLt]
  rfl

theorem timestampCode_of_outside
    (bay : Bay)
    {j : Int}
    (hOutside : ¬ (0 ≤ j ∧ j < slotCount)) :
    timestampCode bay j = -1 := by
  by_cases hSign : j < 0
  · rw [timestampCode, if_pos hSign]
  · have hIndex : ¬ j.toNat < slotCount := by
      omega
    simp only [timestampCode, if_neg hSign, Bay.timestampAt,
      Bay.index?_of_not_lt hIndex]
    rfl

end DirectoryCall

namespace Bench

variable {n m : Nat}

------------------------------------------------------------
-- Answers
------------------------------------------------------------

/- What a surface answers for the timestamp at a number. -/
def codeAnswer
    (bench : Bench n m)
    (t : Fin m)
    (j : Int) : Answer :=
  (bench.step (.surface t (.directory (.timestampAt j)))).2.answer

theorem codeAnswer_of_slot
    (bench : Bench n m)
    (t : Fin m)
    (i : SlotIndex) :
    bench.codeAnswer t i.val =
      .raw
        (.int
          (bench.slot (bench.surface t).bay i).timestamp.code.toInt)
        (bench.surface t).errno := by
  simp only [codeAnswer, step, stepSurface, DirectoryCall.answer,
    DirectoryCall.timestampCode_of_slot]
  rfl

theorem codeAnswer_of_outside
    (bench : Bench n m)
    (t : Fin m)
    {j : Int}
    (hOutside : ¬ (0 ≤ j ∧ j < slotCount)) :
    bench.codeAnswer t j =
      .raw (.int (-1)) (bench.surface t).errno := by
  simp only [codeAnswer, step, stepSurface, DirectoryCall.answer,
    DirectoryCall.timestampCode_of_outside _ hOutside]
  rfl

theorem resolve_own
    (bench : Bench n m)
    (t : Fin m)
    (i : SlotIndex) :
    bench.resolve t (.own i.val) =
      some ((bench.surface t).bay, i) := by
  simp only [resolve, DirectoryCall.handle?,
    Bay.index?_of_lt i.isLt]
  rfl

/- A code is that of failure for the last reading only. -/
theorem codeAnswer_of_slot_eq_iff
    (bench : Bench n m)
    (t : Fin m)
    (i : SlotIndex) :
    bench.codeAnswer t i.val =
        .raw (.int (-1)) (bench.surface t).errno ↔
      (bench.slot (bench.surface t).bay i).timestamp.toNat =
        Instant.last := by
  rw [codeAnswer_of_slot, ← Instant.code_eq_iff]
  constructor
  · intro hAnswer
    apply Int32.toInt_inj.mp
    injection hAnswer with hValue _
    injection hValue
  · intro hCode
    rw [hCode]
    rfl

/-
  On every bench, for every number: a surface answers minus one
  if and only if the number is that of no slot, or the slot has
  the last timestamp that there is; and what it answers for a
  slot is, as a word without a sign, the timestamp that each
  handle of the slot tells, of which there is at least one.
-/
theorem timestamp_codes_tell_the_stamp
    (bench : Bench n m)
    (t : Fin m) :
    (∀ j : Int,
      bench.codeAnswer t j =
          .raw (.int (-1)) (bench.surface t).errno ↔
        ¬ (0 ≤ j ∧ j < slotCount) ∨
          ∃ i : SlotIndex,
            j = i.val ∧
              (bench.slot (bench.surface t).bay i).timestamp.toNat =
                Instant.last) ∧
    (∀ i : SlotIndex, ∃ code : Int32,
      bench.codeAnswer t i.val =
        .raw (.int code.toInt) (bench.surface t).errno ∧
      bench.resolve t (.own i.val) =
        some ((bench.surface t).bay, i) ∧
      ∀ h,
        bench.resolve t h = some ((bench.surface t).bay, i) →
          (bench.step (.device t h .timestamp)).2.answer =
            .raw (.nat code.toUInt32.toNat)
              (bench.surface t).errno) := by
  constructor
  · intro j
    by_cases hInside : 0 ≤ j ∧ j < slotCount
    · have hNumber : j = j.toNat := by
        omega
      have hIndex : j.toNat < slotCount := by
        omega
      have hCode := bench.codeAnswer_of_slot_eq_iff t ⟨_, hIndex⟩
      rw [hNumber]
      constructor
      · intro hAnswer
        exact Or.inr ⟨⟨_, hIndex⟩, rfl, hCode.mp hAnswer⟩
      · rintro (hOutside | ⟨i, hSame, hLast⟩)
        · exact absurd (hNumber ▸ hInside) hOutside
        · rw [hSame]
          exact (bench.codeAnswer_of_slot_eq_iff t i).mpr hLast
    · exact iff_of_true (bench.codeAnswer_of_outside t hInside)
        (Or.inl hInside)
  · intro i
    refine ⟨_, bench.codeAnswer_of_slot t i,
      bench.resolve_own t i, ?_⟩
    intro h hHandle
    rw [stepDevice_eq hHandle rfl, Instant.toNat_code]
    rfl

/- A motor that is set to move when the clock is at its end. -/
def motorAtEnd
    (b : Fin n) : List (Step n m) :=
  [.clock (.set ⟨4294967295⟩),
    .slot b 0 (.presence (.plugIn .motor)),
    .slot b 0 (.motor (.tell (.setVelocity 1)))]

/- Number zero is that of a slot, and yet the code is minus one. -/
theorem timestamp_code_is_ambiguous :
    let bench : Bench 1 1 :=
      ((fresh (.manual ⟨0⟩) (Vector.replicate 1 {}) #v[0]).run
        (motorAtEnd 0)).1
    bench.Reachable ∧
    ¬ (bench.codeAnswer 0 0 =
          .raw (.int (-1)) (bench.surface 0).errno ↔
        ¬ ((0 : Int) ≤ 0 ∧ (0 : Int) < slotCount)) := by
  intro bench
  have hReachable : bench.Reachable :=
    (Reachable.fresh _ _ _).run (motorAtEnd 0)
  have hLast :
      (bench.slot (bench.surface 0).bay
        ⟨0, by decide⟩).timestamp.toNat = Instant.last := by
    decide +kernel
  refine ⟨hReachable, ?_⟩
  intro hClaim
  have hCode := bench.codeAnswer_of_slot_eq_iff 0 ⟨0, by decide⟩
  exact hClaim.mp (hCode.mpr hLast) (by decide)

end Bench

end DeviceBay
