import DeviceBay.Proofs.Bench.Cells
import DeviceBay.Proofs.Slot.Lines

/-
  This file proves that the lines of an expander are registers
  of their own: over any run, each answers what it was last
  told. A line that an expander lacks is refused whatever is in
  the slot, and any other before it is looked at if the guard
  refuses, without a trace in both cases.

  Key definitions include:
    * `Moment.writesLine?`
    * `Bench.lineAnswer`

  Main declarations:
    * `Bench.History.line_eq_last_write`
    * `Bench.lineAnswer_of_state`
    * `Bench.lineAnswer_after_setMode`
    * `Bench.stepLine_of_still`
    * `Bench.lines_answer_their_last_writes`
-/

namespace DeviceBay

/- What a moment writes into a line of the expander in a slot. -/
def Moment.writesLine?
    {n m : Nat}
    (b : Fin n)
    (i : SlotIndex)
    (line : Fin lineCount)
    (x : Moment n m) : Option LineMode :=
  (x.callOn? b i).bind
    (Expander.write? (x.bench.slot b i) line)

namespace Bench

variable {n m : Nat}

------------------------------------------------------------
-- Lines over a run
------------------------------------------------------------

/- A line holds its last write since the last installation. -/
theorem History.line_eq_last_write
    {past : List (Moment n m)}
    {bench : Bench n m}
    (hPast : History past bench)
    (b : Fin n)
    (i : SlotIndex)
    (line : Fin lineCount) :
    Expander.held (bench.slot b i) line =
      (lastWrite? (Moment.writesLine? b i line)
        (since (Moment.installs b i) past)).getD .standard :=
  hPast.cell_eq_last_write b i (Expander.cell line)

------------------------------------------------------------
-- Answers
------------------------------------------------------------

/- What the driver answers for a line. -/
def lineAnswer
    (bench : Bench n m)
    (b : Fin n)
    (i : SlotIndex)
    (line : Nat) : Answer :=
  (bench.step (.slot b i (.line (.mode line)))).2.answer

section Answers

variable {bench : Bench n m} {b : Fin n} {i : SlotIndex}
variable {s : Expander}

theorem lineAnswer_of_state
    (hState : (bench.slot b i).stateOf .expander = .ok s)
    (line : Fin lineCount) :
    bench.lineAnswer b i line =
      .value
        (.lineMode (Expander.held (bench.slot b i) line)) := by
  rw [lineAnswer, stepSlot_eq rfl,
    Expander.held_of_state hState]
  simp only [SlotCall.run, Reply.mapError_result,
    LineCall.run_mode_of_state bench.clock line hState]
  rfl

/- An expander in reach takes every use for each of its lines. -/
theorem stateOf_after_setMode
    (hState : (bench.slot b i).stateOf .expander = .ok s)
    (line : Fin lineCount)
    (use : LineMode) :
    ((bench.step (.slot b i (.line (.setMode line use)))).1.slot b
        i).stateOf .expander =
      .ok { s with lines := s.lines.set line use line.isLt } := by
  have hEffect :
      (SlotCall.line (.setMode line use)).effect (bench.env b)
          bench.clock (bench.slot b i) =
        .update bench.clock .expander
          (fun s =>
            { s with lines := s.lines.set line use line.isLt }) :=
    dif_pos line.isLt
  exact stateOf_of_update (bench.callOn?_slot b i _) hEffect hState

/- A line that is told its use keeps it, and the others theirs. -/
theorem lineAnswer_after_setMode
    (hState : (bench.slot b i).stateOf .expander = .ok s)
    (line other : Fin lineCount)
    (use : LineMode) :
    (bench.step (.slot b i (.line (.setMode line use)))).1.lineAnswer
        b i other =
      if other = line then
        .value (.lineMode use)
      else
        bench.lineAnswer b i other := by
  have hAfter := stateOf_after_setMode hState line use
  rw [lineAnswer_of_state hAfter, lineAnswer_of_state hState,
    Expander.held_of_state hAfter, Expander.held_of_state hState]
  by_cases hSame : other = line
  · subst hSame
    simp
  · have hNumber : line.val ≠ other.val :=
      fun hEq => hSame (Fin.ext hEq.symm)
    simp [hSame, Vector.getElem_set_ne, hNumber]

theorem answer_setMode_of_state
    (hState : (bench.slot b i).stateOf .expander = .ok s)
    (line : Fin lineCount)
    (use : LineMode) :
    (bench.step (.slot b i (.line (.setMode line use)))).2.answer =
      .value .unit := by
  rw [stepSlot_eq rfl]
  simp only [SlotCall.run, Reply.mapError_result,
    LineCall.run_setMode_of_state bench.clock line use hState]
  rfl

/- An operation that only fails leaves the bench as it was. -/
theorem stepLine_of_still
    {c : LineCall}
    {e : LineError}
    (hRun :
      c.run bench.clock (bench.slot b i) =
        .still (bench.slot b i) bench.clock (.error e)) :
    bench.step (.slot b i (.line c)) =
      (bench, { answer := .failed (.line e) }) := by
  have hReply :
      (SlotCall.line c).run (bench.env b) bench.clock
          (bench.slot b i) =
        .still (bench.slot b i) bench.clock
          (.error (.line e)) := by
    rw [SlotCall.run, hRun]
    rfl
  rw [stepSlot_eq hReply]
  exact congrArg (fun after => (after, _)) (bench.settle_slot b i)

end Answers

------------------------------------------------------------
-- Registers of their own
------------------------------------------------------------

/-
  After any run, for every slot. An expander in reach answers
  for each line the use that was last written to it since a
  device was last put into the slot, and analog input if there
  was none; a line can always be told a use, and none of the
  others is different after it. A line that no expander has is
  refused as such whatever is in the slot, and for any other
  line the failure of the guard is given as it is. Both leave
  the whole bench alone and take no reading of the clock.
-/
theorem lines_answer_their_last_writes
    {past : List (Moment n m)}
    {bench : Bench n m}
    (hPast : History past bench)
    (b : Fin n)
    (i : SlotIndex) :
    ((bench.slot b i).connectedType = some .adi →
      (∀ line : Fin lineCount,
        bench.lineAnswer b i line =
          .value
            (.lineMode
              ((lastWrite? (Moment.writesLine? b i line)
                (since (Moment.installs b i) past)).getD
                .analogIn))) ∧
      ∀ (line : Fin lineCount) (use : LineMode),
        let told :=
          bench.step (.slot b i (.line (.setMode line use)))
        told.2.answer = .value .unit ∧
        ∀ other : Fin lineCount,
          told.1.lineAnswer b i other =
            if other = line then
              .value (.lineMode use)
            else
              bench.lineAnswer b i other) ∧
    (∀ c : LineCall,
      lineCount ≤ c.line →
        bench.step (.slot b i (.line c)) =
          (bench,
            { answer := .failed (.line (.outOfRange c.line)) })) ∧
    (∀ (c : LineCall) (e : SlotError),
      c.line < lineCount →
      (bench.slot b i).validate .adi = .error e →
        bench.step (.slot b i (.line c)) =
          (bench, { answer := .failed (.line (.slot e)) })) := by
  refine ⟨?_, ?_, ?_⟩
  · intro hType
    rcases (hPast.coherent b i).stateOf (k := .expander) hType with
      ⟨s, hState⟩
    constructor
    · intro line
      rw [lineAnswer_of_state hState line,
        hPast.line_eq_last_write b i line]
      rfl
    · intro line use told
      refine ⟨answer_setMode_of_state hState line use, ?_⟩
      intro other
      exact lineAnswer_after_setMode hState line other use
  · intro c hLine
    exact stepLine_of_still
      (LineCall.run_eq_of_out_of_range bench.clock _
        (Nat.not_lt.mpr hLine))
  · intro c e hLine hRefused
    exact stepLine_of_still
      (LineCall.run_eq_of_refused bench.clock hLine hRefused)

/-
  An expander with two lines in use, one of which is told
  another use while the expander is out of reach.
-/
def wired
    (b : Fin n) : List (Step n m) :=
  [.slot b 7 (.presence (.plugIn .adi)),
    .slot b 7 (.line (.setMode 2 .servo)),
    .slot b 7 (.line (.setMode 3 .gyro)),
    .slot b 7 (.presence .disconnect),
    .slot b 7 (.line (.setMode 2 .motor)),
    .slot b 7 (.presence .connect)]

theorem lines_answer_their_last_writes_wired :
    let start : Bench 1 1 :=
      fresh (.manual ⟨7⟩) (Vector.replicate 1 {}) #v[0]
    let bench := (start.run (wired 0)).1
    (bench.slot 0 ⟨7, by decide⟩).connectedType = some .adi ∧
    bench.lineAnswer 0 ⟨7, by decide⟩ 2 =
      .value (.lineMode .servo) ∧
    bench.step (.slot 0 7 (.line (.setMode 8 .servo))) =
      (bench, { answer := .failed (.line (.outOfRange 8)) }) ∧
    bench.step (.slot 0 6 (.line (.setMode 2 .servo))) =
      (bench,
        { answer := .failed (.line (.slot (.disconnected 6))) }) := by
  intro start bench
  have hPast : History (start.moments (wired 0)) bench :=
    (History.fresh _ _ _).run (wired 0)
  have hType :
      (bench.slot 0 ⟨7, by decide⟩).connectedType = some .adi := by
    decide +kernel
  have hWritten :
      lastWrite?
        (Moment.writesLine? 0 ⟨7, by decide⟩ ⟨2, by decide⟩)
        (since (Moment.installs 0 ⟨7, by decide⟩)
          (start.moments (wired 0))) =
        some LineMode.servo := by
    decide +kernel
  have hVacant :
      (bench.slot 0 ⟨6, by decide⟩).validate .adi =
        .error (.disconnected 6) := by
    decide +kernel
  have hLines := lines_answer_their_last_writes hPast 0
  refine ⟨hType, ?_, ?_, ?_⟩
  · have hAnswer :=
      ((hLines ⟨7, by decide⟩).1 hType).1 ⟨2, by decide⟩
    rw [hWritten] at hAnswer
    exact hAnswer
  · exact (hLines ⟨7, by decide⟩).2.1 (.setMode 8 .servo)
      (by decide)
  · exact (hLines ⟨6, by decide⟩).2.2 (.setMode 2 .servo) _
      (by decide) hVacant

end Bench

end DeviceBay
