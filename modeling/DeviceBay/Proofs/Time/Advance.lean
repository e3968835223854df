import DeviceBay.Time.Clock
import Mathlib.Algebra.GroupWithZero.Nat
import Mathlib.Data.List.DropRight
import Mathlib.Data.List.Perm.Basic

/-
  This file proves what a clock shows after any number of steps
  that set it or advance it: the reading that it was last set
  to, plus the whole milliseconds of all advances since then, as
  far as its range goes. An advance stops at the end of the
  range exactly where a checked addition has no result, be the
  span itself too long for a word or only the sum.

  Key definitions include:
    * `Duration.word?`
    * `Instant.addWord?`
    * `Clock.moved`
    * `ClockStep.lastSet?`
    * `ClockStep.advancedSince`

  Main declarations:
    * `Instant.add?_eq_some_iff`
    * `Instant.add?_eq_none_iff`
    * `Instant.add?_eq_words`
    * `Instant.advance_eq_words`
    * `Clock.toNat_moved`
    * `Clock.moved_perm`
    * `Clock.shows_last_set_and_advances`
-/

namespace DeviceBay

------------------------------------------------------------
-- Additions
------------------------------------------------------------

/- The whole milliseconds of a span, if a word can hold them. -/
def Duration.word?
    (d : Duration) : Option UInt32 :=
  if d.wholeMillis ≤ Instant.last then
    some (UInt32.ofNat d.wholeMillis)
  else
    none

namespace Instant

/- The largest word, which is also the last reading. -/
def lastWord : UInt32 :=
  4294967295

/- The reading some milliseconds later, if the sum is a word. -/
def addWord?
    (t : Instant)
    (step : UInt32) : Option Instant :=
  if t.millis ≤ lastWord - step then
    some ⟨t.millis + step⟩
  else
    none

theorem toNat_lastWord :
    lastWord.toNat = last :=
  rfl

theorem toNat_ofNat
    {n : Nat}
    (hWord : n ≤ last) :
    (UInt32.ofNat n).toNat = n := by
  have hLt : n < 4294967296 := by
    simp only [last] at hWord
    omega
  exact Nat.mod_eq_of_lt hLt

theorem add?_eq_some_iff
    (t u : Instant)
    (d : Duration) :
    t.add? d = some u ↔ u.toNat = t.toNat + d.wholeMillis := by
  have hLast := u.toNat_le_last
  by_cases hFits : t.toNat + d.wholeMillis ≤ last
  · rw [add?, if_pos hFits, Option.some_inj]
    constructor
    · rintro rfl
      exact toNat_ofNat hFits
    · intro hSum
      apply toNat_inj
      rw [hSum]
      exact toNat_ofNat hFits
  · rw [add?, if_neg hFits]
    exact iff_of_false (Option.some_ne_none u).symm (by omega)

theorem add?_eq_none_iff
    (t : Instant)
    (d : Duration) :
    t.add? d = none ↔ last < t.toNat + d.wholeMillis := by
  unfold add?
  split <;> simp <;> omega

/- Words are added if there is as much left above the one. -/
theorem addWord?_eq_some_iff
    (t u : Instant)
    (step : UInt32) :
    t.addWord? step = some u ↔
      u.toNat = t.toNat + step.toNat := by
  have hStep := step.toNat_lt
  have hLast := u.toNat_le_last
  have hLeft : step ≤ lastWord := by
    rw [UInt32.le_iff_toNat_le, toNat_lastWord, last]
    omega
  have hRoom :
      t.millis ≤ lastWord - step ↔ t.toNat + step.toNat ≤ last := by
    rw [UInt32.le_iff_toNat_le, UInt32.toNat_sub_of_le _ _ hLeft,
      toNat_lastWord]
    simp only [toNat, last]
    omega
  by_cases hFits : t.millis ≤ lastWord - step
  · have hSum :
        (⟨t.millis + step⟩ : Instant).toNat =
          t.toNat + step.toNat := by
      have hWord := hRoom.mp hFits
      simp only [toNat, last] at hWord
      rw [toNat, UInt32.toNat_add]
      exact Nat.mod_eq_of_lt (by omega)
    rw [addWord?, if_pos hFits, Option.some_inj]
    constructor
    · rintro rfl
      exact hSum
    · intro hNat
      exact toNat_inj (hSum.trans hNat.symm)
  · rw [addWord?, if_neg hFits]
    rw [hRoom] at hFits
    exact iff_of_false (Option.some_ne_none u).symm (by omega)

/-
  The span must be a word, and then its sum with the reading
  must be one too.
-/
theorem add?_eq_words
    (t : Instant)
    (d : Duration) :
    t.add? d = d.word?.bind t.addWord? := by
  apply Option.ext
  intro u
  have hLast := u.toNat_le_last
  rw [add?_eq_some_iff, Duration.word?]
  by_cases hWord : d.wholeMillis ≤ last
  · rw [if_pos hWord, Option.bind_some, addWord?_eq_some_iff,
      toNat_ofNat hWord]
  · rw [if_neg hWord]
    exact iff_of_false (by omega) (Option.some_ne_none u).symm

/- An advance goes where the addition does, or to the end. -/
theorem advance_eq_add?
    (t : Instant)
    (d : Duration) :
    t.advance d = (t.add? d).getD ⟨lastWord⟩ := by
  apply toNat_inj
  rw [toNat_advance]
  cases hSum : t.add? d with
  | some u =>
      have hLast := u.toNat_le_last
      rw [add?_eq_some_iff] at hSum
      rw [Option.getD_some]
      omega
  | none =>
      rw [add?_eq_none_iff] at hSum
      exact Nat.min_eq_left hSum.le

/-
  A span that is no word counts as the largest one, and a sum
  that is none as the end of the range.
-/
theorem advance_eq_words
    (t : Instant)
    (d : Duration) :
    t.advance d =
      (t.addWord? (d.word?.getD lastWord)).getD ⟨lastWord⟩ := by
  rw [advance_eq_add?, add?_eq_words]
  cases d.word? with
  | some step => rfl
  | none =>
      -- The largest word can be added to the epoch only.
      cases hSum : t.addWord? lastWord with
      | none => simp [hSum]
      | some u =>
          have hNat := (addWord?_eq_some_iff t u lastWord).mp hSum
          have hLast := u.toNat_le_last
          rw [toNat_lastWord] at hNat
          have hEnd : u.toNat = last := by omega
          have hWord : u = ⟨lastWord⟩ := toNat_inj hEnd
          simp [hSum, hWord]

theorem le_advance
    (t : Instant)
    (d : Duration) :
    t ≤ t.advance d := by
  have hLast := t.toNat_le_last
  rw [le_iff, toNat_advance]
  omega

/- At the end of its range a clock stays. -/
theorem advance_of_last
    {t : Instant}
    (hEnd : t.toNat = last)
    (d : Duration) :
    t.advance d = t := by
  apply toNat_inj
  rw [toNat_advance, hEnd]
  omega

theorem advance_comm
    (t : Instant)
    (d e : Duration) :
    (t.advance d).advance e = (t.advance e).advance d := by
  apply toNat_inj
  simp only [toNat_advance]
  omega

end Instant

------------------------------------------------------------
-- Steps of a clock
------------------------------------------------------------

namespace ClockStep

def set? : ClockStep → Option Instant
  | .set t => some t
  | .advance _ => none

/- The milliseconds that a step adds to the reading. -/
def advanced : ClockStep → Nat
  | .set _ => 0
  | .advance d => d.wholeMillis

/- The reading that the last of the steps set that set any. -/
def lastSet?
    (steps : List ClockStep) : Option Instant :=
  (steps.filterMap set?).getLast?

/- The milliseconds of all advances after the last setting. -/
def advancedSince
    (steps : List ClockStep) : Nat :=
  ((steps.rtakeWhile (fun s => s.set?.isNone)).map advanced).sum

end ClockStep

namespace Clock

/- The clock after all steps in order. -/
def moved
    (c : Clock)
    (steps : List ClockStep) : Clock :=
  steps.foldl ClockStep.apply c

theorem moved_append
    (c : Clock)
    (before after : List ClockStep) :
    c.moved (before ++ after) = (c.moved before).moved after :=
  List.foldl_append

theorem moved_advances
    (c : Clock)
    (spans : List Duration) :
    c.moved (spans.map .advance) = spans.foldl advance c :=
  List.foldl_map

/-
  The sum is over all advances, although each of them stops at
  the end of the range by itself.
-/
theorem toNat_moved
    (c : Clock)
    (steps : List ClockStep) :
    (c.moved steps).now.toNat =
      min Instant.last
        (((ClockStep.lastSet? steps).getD c.now).toNat +
          ClockStep.advancedSince steps) := by
  -- From the end, since a setting makes all before it idle.
  induction steps using List.reverseRecOn with
  | nil => exact (Nat.min_eq_right c.now.toNat_le_last).symm
  | append_singleton steps s ih =>
      rw [moved_append]
      cases s with
      | set t =>
          have hLast := t.toNat_le_last
          simp [moved, ClockStep.apply, Clock.set,
            ClockStep.lastSet?, ClockStep.advancedSince,
            ClockStep.set?, hLast]
      | advance d =>
          have hStep :
              ((c.moved steps).advance d).now.toNat =
                min Instant.last
                  ((c.moved steps).now.toNat + d.wholeMillis) :=
            (c.moved steps).now.toNat_advance d
          have hSet :
              ClockStep.lastSet? (steps ++ [.advance d]) =
                ClockStep.lastSet? steps := by
            simp [ClockStep.lastSet?, ClockStep.set?]
          have hSum :
              ClockStep.advancedSince (steps ++ [.advance d]) =
                ClockStep.advancedSince steps + d.wholeMillis := by
            simp [ClockStep.advancedSince, ClockStep.set?,
              ClockStep.advanced]
          rw [hSet, hSum]
          refine hStep.trans ?_
          rw [ih]
          omega

theorem advance_comm
    (c : Clock)
    (d e : Duration) :
    (c.advance d).advance e = (c.advance e).advance d := by
  simp only [advance, c.now.advance_comm d e]

/- Between two settings the order of the advances is no matter. -/
theorem moved_perm
    (c : Clock)
    {spans others : List Duration}
    (hPerm : spans.Perm others)
    (before after : List ClockStep) :
    c.moved (before ++ spans.map .advance ++ after) =
      c.moved (before ++ others.map .advance ++ after) := by
  have hComm : RightCommutative advance := ⟨advance_comm⟩
  have hSame :
      (c.moved before).moved (spans.map .advance) =
        (c.moved before).moved (others.map .advance) := by
    rw [moved_advances, moved_advances]
    exact hPerm.foldl_eq _
  rw [moved_append, moved_append, moved_append, moved_append, hSame]

/-
  After any steps a clock shows the reading that it was last
  set to, or that it began with, and the whole milliseconds of
  all advances since then, up to the end of its range. So the
  order of advances between two settings is no matter, no
  advance makes the reading less, and none makes it any other
  at the end of the range. A single advance goes where the
  checked addition does, and to the end, short of the sum,
  exactly if that has no result.
-/
theorem shows_last_set_and_advances
    (c : Clock) :
    (∀ steps,
      (c.moved steps).now.toNat =
        min Instant.last
          (((ClockStep.lastSet? steps).getD c.now).toNat +
            ClockStep.advancedSince steps)) ∧
    (∀ (before : List ClockStep) (spans others : List Duration)
      (after : List ClockStep),
      spans.Perm others →
        c.moved (before ++ spans.map .advance ++ after) =
          c.moved (before ++ others.map .advance ++ after)) ∧
    (∀ d, c.now ≤ (c.advance d).now) ∧
    (∀ d, c.now.toNat = Instant.last → c.advance d = c) ∧
    (∀ d,
      (∀ u,
        c.now.add? d = some u ↔
          (c.advance d).now = u ∧
            u.toNat = c.now.toNat + d.wholeMillis) ∧
      (c.now.add? d = none ↔
        (c.advance d).now.toNat = Instant.last ∧
          Instant.last < c.now.toNat + d.wholeMillis)) ∧
    (∀ d,
      c.now.add? d = d.word?.bind c.now.addWord? ∧
      (c.advance d).now =
        (c.now.addWord? (d.word?.getD Instant.lastWord)).getD
          ⟨Instant.lastWord⟩) := by
  refine ⟨c.toNat_moved, ?_, c.now.le_advance, ?_, ?_, ?_⟩
  · intro before spans others after hPerm
    exact c.moved_perm hPerm before after
  · intro d hEnd
    rw [advance, Instant.advance_of_last hEnd]
  · intro d
    have hGoes : (c.advance d).now = (c.now.add? d).getD _ :=
      c.now.advance_eq_add? d
    constructor
    · intro u
      rw [← Instant.add?_eq_some_iff, iff_and_self]
      intro hSum
      rw [hGoes, hSum, Option.getD_some]
    · rw [← Instant.add?_eq_none_iff, iff_and_self]
      intro hNone
      rw [hGoes, hNone]
      rfl
  · intro d
    exact ⟨c.now.add?_eq_words d, c.now.advance_eq_words d⟩

/-
  Set to six milliseconds before the end, where two advances of
  less than four each still find room, and a third does not.
-/
theorem shows_last_set_and_advances_near_the_end :
    let c := Clock.manual .epoch
    let near : List ClockStep := [.advance ⟨1⟩, .set ⟨4294967289⟩]
    let spans : List Duration := [⟨3999999⟩, .ofMillis 2]
    let others : List Duration := [.ofMillis 2, ⟨3999999⟩]
    let before := c.moved (near ++ spans.map .advance ++ [])
    let ended := before.advance (.ofMillis 2)
    spans.Perm others ∧
    before.now = ⟨4294967294⟩ ∧
    before = c.moved (near ++ others.map .advance ++ []) ∧
    before.now.add? (.ofMillis 2) = none ∧
    ended.now.toNat = Instant.last ∧
    ended.advance (.ofParts 18446744073709551615 999999999) =
      ended := by
  intro c near spans others before ended
  have hPerm : spans.Perm others := List.Perm.swap _ _ []
  have hBefore := shows_last_set_and_advances before
  have hShort :
      ended.now.toNat = Instant.last ∧
        Instant.last < before.now.toNat + 2 := by
    decide +kernel
  have hNone := ((hBefore.2.2.2.2.1 (.ofMillis 2)).2).mpr hShort
  refine ⟨hPerm, by decide +kernel, ?_, hNone, hShort.1, ?_⟩
  · exact (shows_last_set_and_advances c).2.1 near spans others []
      hPerm
  · exact (shows_last_set_and_advances ended).2.2.2.1 _ hShort.1

end Clock

end DeviceBay
