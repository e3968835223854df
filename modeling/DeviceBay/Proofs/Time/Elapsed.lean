import DeviceBay.Proofs.Time.Advance

/-
  This file proves that the addition of a span to a reading and
  the difference of two readings are adjoint: the one ends at a
  reading exactly if the other leads back. Both are exact on
  words: what they add and take away never leaves the range.

  Key definitions include:
    * `Duration.floorMillis`
    * `Instant.WordsSuffice`

  Main declarations:
    * `Instant.durationSince?_eq_some_iff`
    * `Instant.saturatingDurationSince_eq`
    * `Instant.add?_eq_some_iff_durationSince?`
    * `Instant.wordsSuffice`
    * `Instant.addition_and_difference_are_adjoint`
-/

namespace DeviceBay

------------------------------------------------------------
-- Whole milliseconds
------------------------------------------------------------

namespace Duration

/- A span without its part below a millisecond. -/
def floorMillis
    (d : Duration) : Duration :=
  ofMillis d.wholeMillis

theorem ofMillis_inj
    (k l : Nat) :
    ofMillis k = ofMillis l ↔ k = l := by
  constructor
  · intro hSame
    rw [← wholeMillis_ofMillis k, hSame, wholeMillis_ofMillis]
  · exact congrArg ofMillis

theorem ofMillis_le_ofMillis
    {k l : Nat}
    (hLe : k ≤ l) :
    ofMillis k ≤ ofMillis l :=
  Nat.mul_le_mul_right 1000000 hLe

/-
  The seconds of a span count a thousand each, and the rest of
  it the millionth part.
-/
theorem wholeMillis_eq_parts
    (d : Duration) :
    d.wholeSeconds * 1000 + d.subsecNanos / 1000000 =
      d.wholeMillis := by
  simp only [wholeSeconds, subsecNanos, wholeMillis]
  omega

end Duration

namespace Instant

------------------------------------------------------------
-- Order of readings
------------------------------------------------------------

theorem le_refl
    (t : Instant) :
    t ≤ t := by
  rw [le_iff]

theorem le_trans
    {s t u : Instant}
    (hLeft : s ≤ t)
    (hRight : t ≤ u) :
    s ≤ u := by
  rw [le_iff] at *
  omega

------------------------------------------------------------
-- Differences
------------------------------------------------------------

theorem durationSince?_eq_some_iff
    (t earlier : Instant)
    (d : Duration) :
    t.durationSince? earlier = some d ↔
      earlier ≤ t ∧ .ofMillis (t.toNat - earlier.toNat) = d := by
  unfold durationSince?
  split <;> simp [*]

theorem durationSince?_eq_none_iff
    (t earlier : Instant) :
    t.durationSince? earlier = none ↔ t < earlier := by
  rw [lt_iff]
  unfold durationSince?
  split
  case isTrue hOrder =>
    rw [le_iff] at hOrder
    exact iff_of_false (Option.some_ne_none _) (by omega)
  case isFalse hOrder =>
    rw [le_iff] at hOrder
    exact iff_of_true rfl (by omega)

/- A difference of counts is none at all where it would be negative. -/
theorem saturatingDurationSince_eq
    (t earlier : Instant) :
    t.saturatingDurationSince earlier =
      .ofMillis (t.toNat - earlier.toNat) := by
  cases hPassed : t.durationSince? earlier with
  | some d =>
      rw [saturatingDurationSince, hPassed, Option.getD_some]
      exact ((t.durationSince?_eq_some_iff earlier d).mp hPassed).2.symm
  | none =>
      have hLater := (t.durationSince?_eq_none_iff earlier).mp hPassed
      rw [lt_iff] at hLater
      rw [saturatingDurationSince, hPassed, Option.getD_none,
        Nat.sub_eq_zero_of_le hLater.le]
      rfl

/- Where the difference is defined, the two forms of it agree. -/
theorem durationSince?_of_not_lt
    {t earlier : Instant}
    (hOrder : ¬ t < earlier) :
    t.durationSince? earlier =
      some (t.saturatingDurationSince earlier) := by
  rw [lt_iff] at hOrder
  rw [durationSince?_eq_some_iff, saturatingDurationSince_eq, le_iff]
  exact ⟨by omega, rfl⟩

theorem saturatingDurationSince_of_lt
    {t earlier : Instant}
    (hOrder : t < earlier) :
    t.saturatingDurationSince earlier = .zero := by
  rw [saturatingDurationSince,
    (t.durationSince?_eq_none_iff earlier).mpr hOrder]
  rfl

/- More time passed until a later reading, and since an earlier one. -/
theorem saturatingDurationSince_le
    {t later start earlier : Instant}
    (hUntil : t ≤ later)
    (hSince : earlier ≤ start) :
    t.saturatingDurationSince start ≤
      later.saturatingDurationSince earlier := by
  rw [le_iff] at hUntil hSince
  rw [saturatingDurationSince_eq, saturatingDurationSince_eq]
  apply Duration.ofMillis_le_ofMillis
  omega

/- A sum leads back by the whole milliseconds that were added. -/
theorem add?_eq_some_iff_durationSince?
    (t u : Instant)
    (d : Duration) :
    t.add? d = some u ↔
      u.durationSince? t = some d.floorMillis := by
  rw [add?_eq_some_iff, durationSince?_eq_some_iff,
    Duration.floorMillis, Duration.ofMillis_inj, le_iff]
  omega

------------------------------------------------------------
-- Words
------------------------------------------------------------

/-
  What is computed with words for two readings and a span. A
  difference that is taken does not go below zero, a sum that
  is made does not go past the last word, and one is refused
  only where it would. Before that, the milliseconds of a span
  are counted: if its seconds fit into sixty-four bits, then
  the count fits into twice as many.
-/
structure WordsSuffice
    (t u : Instant)
    (d : Duration) : Prop where
  difference (passed : Duration)
      (hPassed : u.durationSince? t = some passed) :
      BitVec.usubOverflow u.millis.toBitVec t.millis.toBitVec =
          false ∧
        passed = .ofMillis (u.millis - t.millis).toNat
  sum (hSum : t.add? d = some u) :
      ∃ step,
        d.word? = some step ∧
          BitVec.uaddOverflow t.millis.toBitVec step.toBitVec =
            false ∧
          u.millis = t.millis + step
  refused (hRefused : t.add? d = none) :
      ∀ step,
        d.word? = some step →
          BitVec.uaddOverflow t.millis.toBitVec step.toBitVec =
            true
  count (hSeconds : d.wholeSeconds < 2 ^ 64) :
      d.wholeSeconds * 1000 + d.subsecNanos / 1000000 =
          d.wholeMillis ∧
        d.wholeMillis < 2 ^ 128

theorem usubOverflow_eq_false_iff
    (t u : Instant) :
    BitVec.usubOverflow u.millis.toBitVec t.millis.toBitVec =
        false ↔
      t.toNat ≤ u.toNat := by
  rw [BitVec.usubOverflow, decide_eq_false_iff_not, Nat.not_lt]
  rfl

theorem uaddOverflow_eq_true_iff
    (t : Instant)
    (step : UInt32) :
    BitVec.uaddOverflow t.millis.toBitVec step.toBitVec = true ↔
      last < t.toNat + step.toNat := by
  rw [BitVec.uaddOverflow, decide_eq_true_iff]
  exact Iff.rfl

/- An addition that has a result was made with words. -/
theorem exists_word_of_add?
    {t u : Instant}
    {d : Duration}
    (hSum : t.add? d = some u) :
    ∃ step,
      d.word? = some step ∧
        u.toNat = t.toNat + step.toNat ∧
        u.millis = t.millis + step := by
  rw [add?_eq_words, Option.bind_eq_some_iff] at hSum
  rcases hSum with ⟨step, hWord, hSum⟩
  have hNat := (addWord?_eq_some_iff t u step).mp hSum
  refine ⟨step, hWord, hNat, ?_⟩
  unfold addWord? at hSum
  split at hSum
  · rw [← Option.some_inj.mp hSum]
  · cases hSum

theorem wordsSuffice
    (t u : Instant)
    (d : Duration) :
    WordsSuffice t u d := by
  constructor
  case difference =>
    intro passed hPassed
    rcases (u.durationSince?_eq_some_iff t passed).mp hPassed with
      ⟨hOrder, hSpan⟩
    refine ⟨?_, ?_⟩
    · rw [usubOverflow_eq_false_iff]
      exact (le_iff t u).mp hOrder
    · rw [← hSpan, UInt32.toNat_sub_of_le _ _ hOrder]
      rfl
  case sum =>
    intro hSum
    rcases exists_word_of_add? hSum with
      ⟨step, hWord, hNat, hMillis⟩
    have hLast := u.toNat_le_last
    refine ⟨step, hWord, ?_, hMillis⟩
    rw [← Bool.not_eq_true, uaddOverflow_eq_true_iff]
    omega
  case refused =>
    intro hRefused step hWord
    rw [add?_eq_none_iff] at hRefused
    rw [uaddOverflow_eq_true_iff]
    unfold Duration.word? at hWord
    split at hWord
    case isTrue hFits =>
      rw [← Option.some_inj.mp hWord, toNat_ofNat hFits]
      exact hRefused
    case isFalse => cases hWord
  case count =>
    intro hSeconds
    have hParts := d.wholeMillis_eq_parts
    refine ⟨hParts, ?_⟩
    simp only [Duration.subsecNanos] at hParts
    omega

------------------------------------------------------------
-- Adjunction
------------------------------------------------------------

/-
  For all readings and spans: a span leads from one reading to
  another exactly if the difference of the two is the span in
  whole milliseconds. A difference is missing exactly if it
  would be negative, where the saturating one is zero, and a
  sum exactly if it is past the last reading. The saturating
  difference goes up with the one reading and down with the
  other, and no step of any of this overflows.
-/
theorem addition_and_difference_are_adjoint
    (t u : Instant)
    (d : Duration) :
    (t.add? d = some u ↔
      u.durationSince? t = some d.floorMillis) ∧
    (u.durationSince? t = none ↔ u < t) ∧
    (u < t → u.saturatingDurationSince t = .zero) ∧
    (¬ u < t →
      u.durationSince? t = some (u.saturatingDurationSince t)) ∧
    (t.add? d = none ↔ last < t.toNat + d.wholeMillis) ∧
    (∀ later,
      u ≤ later →
        u.saturatingDurationSince t ≤
          later.saturatingDurationSince t) ∧
    (∀ later,
      t ≤ later →
        u.saturatingDurationSince later ≤
          u.saturatingDurationSince t) ∧
    WordsSuffice t u d := by
  refine ⟨t.add?_eq_some_iff_durationSince? u d,
    u.durationSince?_eq_none_iff t, saturatingDurationSince_of_lt,
    durationSince?_of_not_lt, t.add?_eq_none_iff d, ?_, ?_,
    t.wordsSuffice u d⟩
  · intro later hLater
    exact saturatingDurationSince_le hLater (le_refl t)
  · intro later hLater
    exact saturatingDurationSince_le (le_refl u) hLater

/-
  Two milliseconds are left before the end of the range. A span
  of just less than three leads there, and the next longer ones
  lead nowhere, be they too long for a word or not.
-/
theorem addition_and_difference_are_adjoint_at_the_end :
    let t : Instant := ⟨4294967293⟩
    let u : Instant := ⟨4294967295⟩
    u.durationSince? t = some (.ofMillis 2) ∧
    t < u ∧
    t.saturatingDurationSince u = .zero ∧
    t.add? (.ofMillis 3) = none ∧
    t.add? (.ofParts 18446744073709551615 999999999) = none ∧
    u.durationSince? ⟨0⟩ = some (u.saturatingDurationSince ⟨0⟩) := by
  intro t u
  have hBack : u.durationSince? t = some (.ofMillis 2) :=
    (addition_and_difference_are_adjoint t u ⟨2999999⟩).1.mp rfl
  have hOrder : t < u := by decide
  have hShort : t.add? (.ofMillis 3) = none :=
    (addition_and_difference_are_adjoint t u
      (.ofMillis 3)).2.2.2.2.1.mpr (by decide)
  have hLong :
      t.add? (.ofParts 18446744073709551615 999999999) = none :=
    (addition_and_difference_are_adjoint t u
      (.ofParts 18446744073709551615
        999999999)).2.2.2.2.1.mpr (by decide)
  refine ⟨hBack, hOrder, ?_, hShort, hLong, ?_⟩
  · exact (addition_and_difference_are_adjoint u t .zero).2.2.1 hOrder
  · exact (addition_and_difference_are_adjoint ⟨0⟩ u
      .zero).2.2.2.1 (by decide)

end Instant

end DeviceBay
