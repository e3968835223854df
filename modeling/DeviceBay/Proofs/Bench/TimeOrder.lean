import DeviceBay.Proofs.Bench.ResetMemory
import DeviceBay.Proofs.Bench.Timestamps
import DeviceBay.Proofs.Time.Elapsed

/-
  This file proves that the times in a slot are in order while
  the readings of a clock are: the timestamp is never past the
  latest reading and never goes back, and a calibration window
  was opened no later than the slot was stamped. So the time
  that a status read finds passed is a true difference.

  Key definitions include:
    * `Instant.latest`
    * `Moment.KeepsWindow`

  Main declarations:
    * `Instant.le_latest`
    * `Moment.timestamp_le_after`
    * `Moment.window_after_le`
    * `Bench.History.timestamp_le_latest`
    * `Bench.History.timestamp_le`
    * `Bench.History.window_le`
    * `Bench.times_are_in_order`
-/

namespace DeviceBay

------------------------------------------------------------
-- Readings in order
------------------------------------------------------------

namespace Instant

theorem epoch_le
    (t : Instant) :
    epoch ≤ t := by
  rw [le_iff]
  exact Nat.zero_le t.toNat

/- The last of the readings that were taken, or the epoch. -/
def latest
    (seen : List Instant) : Instant :=
  seen.getLast?.getD epoch

theorem latest_le
    {seen : List Instant}
    {t : Instant}
    (hSeen : ∀ s ∈ seen, s ≤ t) :
    latest seen ≤ t := by
  cases hLast : seen.getLast? with
  | none =>
      rw [latest, hLast]
      exact epoch_le t
  | some last =>
      rw [latest, hLast]
      exact hSeen last (List.mem_of_getLast? hLast)

/- While readings never decrease the last one is the greatest. -/
theorem le_latest
    {seen : List Instant}
    {t : Instant}
    (hForward : seen.Pairwise (· ≤ ·))
    (hMember : t ∈ seen) :
    t ≤ latest seen := by
  rcases List.eq_nil_or_concat seen with rfl | ⟨before, last, rfl⟩
  · cases hMember
  · rw [List.concat_eq_append] at hForward hMember ⊢
    have hLatest : latest (before ++ [last]) = last := by
      simp [latest]
    rw [hLatest]
    rcases List.mem_append.mp hMember with hBefore | hLast
    · exact (List.pairwise_append.mp hForward).2.2 t hBefore last
        (List.mem_singleton.mpr rfl)
    · rw [List.mem_singleton.mp hLast]
      exact le_refl last

variable {seen more : List Instant}

/- Each further reading is at least the latest one before. -/
theorem latest_le_of_mem
    {t : Instant}
    (hForward : (seen ++ more).Pairwise (· ≤ ·))
    (hMember : t ∈ more) :
    latest seen ≤ t := by
  apply latest_le
  intro s hSeen
  exact (List.pairwise_append.mp hForward).2.2 s hSeen t hMember

theorem latest_le_append
    (hForward : (seen ++ more).Pairwise (· ≤ ·)) :
    latest seen ≤ latest (seen ++ more) := by
  apply latest_le
  intro s hSeen
  exact le_latest hForward (List.mem_append_left more hSeen)

/- Time that passed since an earlier reading is all there is. -/
theorem exists_durationSince?
    {start now : Instant}
    (hOrder : start ≤ now) :
    ∃ passed,
      start.toNat + passed = now.toNat ∧
        now.durationSince? start = some (.ofMillis passed) ∧
        now.saturatingDurationSince start = .ofMillis passed := by
  have hMillis := (le_iff start now).mp hOrder
  exact ⟨now.toNat - start.toNat, by omega,
    (now.durationSince?_eq_some_iff start _).mpr ⟨hOrder, rfl⟩,
    now.saturatingDurationSince_eq start⟩

end Instant

------------------------------------------------------------
-- Moments
------------------------------------------------------------

namespace Moment

variable {n m : Nat} {b : Fin n} {i : SlotIndex}
variable {x : Moment n m} {seen : List Instant}

/- A moment that publishes no other start of a window, or none. -/
def KeepsWindow
    (b : Fin n)
    (i : SlotIndex)
    (x : Moment n m) : Prop :=
  ∀ edit meanwhile,
    x.callOn? b i = some (.publish .imu edit meanwhile) →
      x.resetWrite? b i = none

/- A stamp is one of the readings of its moment. -/
theorem Stamps.mem_readings
    {t : Instant}
    (hStamps : x.Stamps b i t) :
    t ∈ x.outcome.readings := by
  rcases hStamps.readings with ⟨hReadings, _⟩ | ⟨hReadings, _⟩
  · simp [hReadings]
  · simp [hReadings]

theorem timestamp_le_after
    (hBench : x.bench.Coherent)
    (hForward : (seen ++ x.outcome.readings).Pairwise (· ≤ ·))
    (hStamp : (x.bench.slot b i).timestamp ≤ Instant.latest seen) :
    (x.bench.slot b i).timestamp ≤ (x.after.slot b i).timestamp := by
  rw [timestamp_after hBench]
  cases hNew : x.stamp? b i with
  | none => exact Instant.le_refl _
  | some t =>
      have hMember := (stamps hBench hNew).mem_readings
      exact Instant.le_trans hStamp
        (Instant.latest_le_of_mem hForward hMember)

theorem timestamp_after_le_latest
    (hBench : x.bench.Coherent)
    (hForward : (seen ++ x.outcome.readings).Pairwise (· ≤ ·))
    (hStamp : (x.bench.slot b i).timestamp ≤ Instant.latest seen) :
    (x.after.slot b i).timestamp ≤
      Instant.latest (seen ++ x.outcome.readings) := by
  rw [timestamp_after hBench]
  cases hNew : x.stamp? b i with
  | none =>
      exact Instant.le_trans hStamp
        (Instant.latest_le_append hForward)
  | some t =>
      have hMember := (stamps hBench hNew).mem_readings
      exact Instant.le_latest hForward
        (List.mem_append_right seen hMember)

/-
  The start of a window that is written and not published is
  the first reading of its moment, and the stamp comes after.
-/
theorem start_le_stamp
    {start t : Instant}
    (hBench : x.bench.Coherent)
    (hKeeps : x.KeepsWindow b i)
    (hForward : x.outcome.readings.Pairwise (· ≤ ·))
    (hWrite : x.resetWrite? b i = some (some start))
    (hNew : x.stamp? b i = some t) :
    start ≤ t := by
  rcases Option.bind_eq_some_iff.mp hWrite with ⟨c, hCall, hSays⟩
  cases hSets : c.setsReset with
  | false =>
      rw [SlotCall.resetWrite?_of_not_setsReset _ _ hSets] at hSays
      cases hSays
  | true =>
      rcases SlotCall.cases_of_setsReset hSets with
        rfl | ⟨edit, meanwhile, rfl⟩
      · have hStart : start = x.bench.clock.now := by
          unfold SlotCall.resetWrite? at hSays
          dsimp only at hSays
          split at hSays
          · cases hSays
          · cases hSays
            rfl
        rw [hStart]
        rcases (stamps hBench hNew).readings with
          ⟨_, hNow⟩ | ⟨hReadings, _⟩
        · rw [hNow]
          exact Instant.le_refl _
        · rw [hReadings] at hForward
          exact List.rel_of_pairwise_cons hForward
            (List.mem_singleton.mpr rfl)
      · rw [hKeeps edit meanwhile hCall] at hWrite
        cases hWrite

/- What starts a window stamps the slot as well. -/
theorem resetAt?_after_of_unstamped
    (hBench : x.bench.Coherent)
    (hNew : x.stamp? b i = none)
    {start : Instant}
    (hStart : (x.after.slot b i).resetAt? = some start) :
    (x.bench.slot b i).resetAt? = some start := by
  cases hInstalls : x.installs b i with
  | true =>
      rw [resetAt?_after_of_installs hInstalls] at hStart
      cases hStart
  | false =>
      have hState := (keepsStamp hBench hNew).state hInstalls
      rw [Slot.resetAt?, Slot.stateAs?, hState] at hStart
      exact hStart

/- A start that is stored was just written, or was there before. -/
theorem resetAt?_after
    {start : Instant}
    (hStart : (x.after.slot b i).resetAt? = some start) :
    x.resetWrite? b i = some (some start) ∨
      (x.bench.slot b i).resetAt? = some start := by
  cases hInstalls : x.installs b i with
  | true =>
      rw [resetAt?_after_of_installs hInstalls] at hStart
      cases hStart
  | false =>
      have hFades := fades hInstalls
      rw [hStart] at hFades
      have hWritten := hFades.eq_of_stored
      cases hWrite : x.resetWrite? b i with
      | none =>
          rw [hWrite] at hWritten
          exact Or.inr hWritten
      | some written =>
          rw [hWrite] at hWritten
          have hSame : written = some start := hWritten
          rw [hSame]
          exact Or.inl rfl

theorem window_after_le
    (hBench : x.bench.Coherent)
    (hKeeps : x.KeepsWindow b i)
    (hForward : (seen ++ x.outcome.readings).Pairwise (· ≤ ·))
    (hStamp : (x.bench.slot b i).timestamp ≤ Instant.latest seen)
    (hWindow :
      ∀ start,
        (x.bench.slot b i).resetAt? = some start →
          start ≤ (x.bench.slot b i).timestamp)
    {start : Instant}
    (hStart : (x.after.slot b i).resetAt? = some start) :
    start ≤ (x.after.slot b i).timestamp := by
  have hOld := timestamp_le_after hBench hForward hStamp
  cases hNew : x.stamp? b i with
  | none =>
      have hBefore := resetAt?_after_of_unstamped hBench hNew hStart
      exact Instant.le_trans (hWindow start hBefore) hOld
  | some t =>
      rcases resetAt?_after hStart with hWrite | hBefore
      · rw [timestamp_after hBench, hNew]
        exact start_le_stamp hBench hKeeps
          (List.pairwise_append.mp hForward).2.1 hWrite hNew
      · exact Instant.le_trans (hWindow start hBefore) hOld

end Moment

------------------------------------------------------------
-- Histories
------------------------------------------------------------

namespace Bench

variable {n m : Nat}
variable {past before after : List (Moment n m)}
variable {bench : Bench n m} {x : Moment n m}

theorem readings_append
    (before after : List (Moment n m)) :
    readings (before ++ after) = readings before ++ readings after := by
  simp [readings]

theorem mem_readings_of_mem
    {t : Instant}
    (hMember : x ∈ past)
    (hReading : t ∈ x.outcome.readings) :
    t ∈ readings past :=
  List.mem_flatMap.mpr ⟨x, hMember, hReading⟩

/- The first reading of a status read is what the clock shows. -/
theorem head?_readings
    {b : Fin n}
    {i : SlotIndex}
    {c : SlotCall}
    (hCall : x.callOn? b i = some c)
    (hReads : c.readsStatus = true) :
    x.outcome.readings.head? = some x.bench.clock.now := by
  have hReadings := readings_of_callOn? hCall
  rw [SlotCall.firstReading?_of_readsStatus _ hReads] at hReadings
  rw [Moment.outcome, hReadings]
  rfl

namespace History

theorem timestamp_le_latest
    (hPast : History past bench)
    (hForward : (readings past).Pairwise (· ≤ ·))
    (b : Fin n)
    (i : SlotIndex) :
    (bench.slot b i).timestamp ≤ Instant.latest (readings past) := by
  induction hPast with
  | fresh clock configs views =>
      rw [fresh_slot]
      exact Instant.epoch_le _
  | exchange _ clock ih => exact ih hForward
  | @step past bench hPast s ih =>
      rw [readings_concat] at hForward ⊢
      have hBefore := ih (List.pairwise_append.mp hForward).1
      exact Moment.timestamp_after_le_latest (x := ⟨bench, s⟩)
        hPast.coherent hForward hBefore

/- No moment of the history moves a timestamp back. -/
theorem timestamp_le_after
    (hPast : History past bench)
    (hForward : (readings past).Pairwise (· ≤ ·))
    (b : Fin n)
    (i : SlotIndex)
    (hMember : x ∈ past) :
    (x.bench.slot b i).timestamp ≤ (x.after.slot b i).timestamp := by
  rcases List.append_of_mem hMember with ⟨before, after, rfl⟩
  have hHere : History before x.bench := hPast.upTo
  rw [List.append_cons, readings_append, readings_concat] at hForward
  have hPrefix := (List.pairwise_append.mp hForward).1
  have hStamp :=
    hHere.timestamp_le_latest
      (List.pairwise_append.mp hPrefix).1 b i
  exact Moment.timestamp_le_after hHere.coherent hPrefix hStamp

theorem timestamp_le
    (hPast : History past bench)
    (hForward : (readings past).Pairwise (· ≤ ·))
    (b : Fin n)
    (i : SlotIndex)
    (hMember : x ∈ past) :
    (x.after.slot b i).timestamp ≤ (bench.slot b i).timestamp := by
  have hSteps :
      ∀ y ∈ past,
        (y.bench.slot b i).timestamp ≤
          (y.after.slot b i).timestamp := by
    intro y hThere
    exact hPast.timestamp_le_after hForward b i hThere
  rcases List.append_of_mem hMember with ⟨before, after, rfl⟩
  apply hPast.holds_since
    (P := fun later =>
      (x.after.slot b i).timestamp ≤ (later.slot b i).timestamp)
  · exact Instant.le_refl _
  · intro y hThere _ hBefore
    exact Instant.le_trans hBefore (hSteps y (by simp [hThere]))
  · intro later clock hBefore
    exact hBefore

/- A window was opened no later than the slot was stamped. -/
theorem window_le
    (hPast : History past bench)
    (hForward : (readings past).Pairwise (· ≤ ·))
    (b : Fin n)
    (i : SlotIndex)
    (hKeeps : ∀ x ∈ past, x.KeepsWindow b i)
    {start : Instant}
    (hStart : (bench.slot b i).resetAt? = some start) :
    start ≤ (bench.slot b i).timestamp := by
  induction hPast generalizing start with
  | fresh clock configs views =>
      rw [fresh_slot] at hStart
      cases hStart
  | exchange _ clock ih => exact ih hForward hKeeps hStart
  | @step past bench hPast s ih =>
      rw [readings_concat] at hForward
      have hBefore := (List.pairwise_append.mp hForward).1
      apply Moment.window_after_le (x := ⟨bench, s⟩) hPast.coherent
        (hKeeps _ (by simp)) hForward
        (hPast.timestamp_le_latest hBefore b i)
      · intro old hOld
        apply ih hBefore _ hOld
        intro y hThere
        exact hKeeps y (by simp [hThere])
      · exact hStart

/- A window was opened no later than at any reading to come. -/
theorem window_le_reading
    {b : Fin n}
    {i : SlotIndex}
    {start t : Instant}
    (hPast : History (before ++ x :: after) bench)
    (hForward :
      (readings (before ++ x :: after)).Pairwise (· ≤ ·))
    (hKeeps : ∀ y ∈ before, y.KeepsWindow b i)
    (hStart : (x.bench.slot b i).resetAt? = some start)
    (hReading : t ∈ x.outcome.readings) :
    start ≤ t := by
  have hHere : History before x.bench := hPast.upTo
  rw [readings_append] at hForward
  have hBefore := (List.pairwise_append.mp hForward).1
  have hLater : t ∈ readings (x :: after) :=
    mem_readings_of_mem (by simp) hReading
  have hWindow := hHere.window_le hBefore b i hKeeps hStart
  have hStamp := hHere.timestamp_le_latest hBefore b i
  exact Instant.le_trans hWindow
    (Instant.le_trans hStamp
      (Instant.latest_le_of_mem hForward hLater))

end History

------------------------------------------------------------
-- Times are in order
------------------------------------------------------------

/-
  While the readings of the clock never decrease, for every
  slot of a bay: its timestamp is never past the latest
  reading, and no moment moves it back. If moreover no start of
  a window is published, then a window was opened no later than
  the slot was stamped, so that each status read subtracts the
  start exactly from the first reading that it takes.
-/
theorem times_are_in_order
    {past : List (Moment n m)}
    {bench : Bench n m}
    (hPast : History past bench)
    (hForward : (readings past).Pairwise (· ≤ ·))
    (b : Fin n)
    (i : SlotIndex) :
    (bench.slot b i).timestamp ≤ Instant.latest (readings past) ∧
    (∀ x ∈ past,
      (x.bench.slot b i).timestamp ≤ (x.after.slot b i).timestamp ∧
      (x.after.slot b i).timestamp ≤ (bench.slot b i).timestamp) ∧
    ((∀ x ∈ past, x.KeepsWindow b i) →
      (∀ start,
        (bench.slot b i).resetAt? = some start →
          start ≤ (bench.slot b i).timestamp) ∧
      (∀ x ∈ past, ∀ c start,
        x.callOn? b i = some c → c.readsStatus = true →
        (x.bench.slot b i).resetAt? = some start →
          ∃ now passed,
            x.outcome.readings.head? = some now ∧
            start.toNat + passed = now.toNat ∧
            now.durationSince? start = some (.ofMillis passed) ∧
            now.saturatingDurationSince start =
              .ofMillis passed)) := by
  refine ⟨hPast.timestamp_le_latest hForward b i, ?_, ?_⟩
  · intro x hMember
    exact ⟨hPast.timestamp_le_after hForward b i hMember,
      hPast.timestamp_le hForward b i hMember⟩
  · intro hKeeps
    refine ⟨fun start => hPast.window_le hForward b i hKeeps, ?_⟩
    intro x hMember c start hCall hReads hStart
    have hFirst := head?_readings hCall hReads
    have hReading := List.mem_of_head? hFirst
    rcases List.append_of_mem hMember with ⟨before, after, rfl⟩
    have hOrder : start ≤ x.bench.clock.now := by
      apply hPast.window_le_reading hForward _ hStart hReading
      intro y hBefore
      exact hKeeps y (List.mem_append_left _ hBefore)
    rcases Instant.exists_durationSince? hOrder with
      ⟨passed, hSum, hExact, hSaturating⟩
    exact ⟨x.bench.clock.now, passed, hFirst, hSum, hExact,
      hSaturating⟩

/-
  The clock moves on by itself after each reading, and once
  more in the middle of a change that is made from outside.
-/
theorem times_are_in_order_ticking :
    let origin : Bench 1 1 :=
      Bench.fresh (.ticking ⟨5⟩ (.ofMillis 1))
        (Vector.replicate 1 {}) #v[0]
    let steps : List (Step 1 1) :=
      [.slot 0 3 (.presence (.plugIn .imu)),
        .slot 0 3 (.imu .reset),
        .slot 0 3
          (.publish .imu (fun s => s) (some (.ofMillis 3000)))]
    let reading : Moment 1 1 :=
      ⟨(origin.run steps).1, .slot 0 3 (.imu .status)⟩
    let past := origin.moments steps ++ [reading]
    (reading.after.slot 0 ⟨3, by decide⟩).timestamp ≤
        Instant.latest (readings past) ∧
    ∃ now passed,
      reading.outcome.readings.head? = some now ∧
      5 + passed = now.toNat ∧
      now.durationSince? ⟨5⟩ = some (.ofMillis passed) ∧
      now.saturatingDurationSince ⟨5⟩ = .ofMillis passed := by
  intro origin steps reading past
  have hPast : History past reading.after :=
    ((History.fresh _ _ _).run steps).step reading.step
  have hForward : (readings past).Pairwise (· ≤ ·) := by
    decide +kernel
  have hKeeps :
      ∀ x ∈ past, x.KeepsWindow 0 ⟨3, by decide⟩ := by
    intro x hMember edit meanwhile hCall
    rcases List.mem_cons.mp hMember with rfl | hAfter
    · decide +kernel
    rcases List.mem_cons.mp hAfter with rfl | hAfter
    · cases hCall
    rcases List.mem_cons.mp hAfter with rfl | hAfter
    · decide +kernel
    · rw [List.mem_singleton.mp hAfter]
      decide +kernel
  have hTimes :=
    times_are_in_order hPast hForward 0 ⟨3, by decide⟩
  refine ⟨hTimes.1, ?_⟩
  apply (hTimes.2.2 hKeeps).2 reading (by simp [past])
    (.imu .status) ⟨5⟩
  · rfl
  · rfl
  · decide +kernel

end Bench

end DeviceBay
