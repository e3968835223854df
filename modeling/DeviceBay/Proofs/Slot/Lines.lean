import DeviceBay.Proofs.Slot.Guarded
import DeviceBay.Proofs.Slot.Held

/-
  This file treats the lines of an expander as independent
  registers. It says which operations write a line, and proves
  that an operation changes a line only by writing it.

  Key definitions include:
    * `Expander.held`
    * `Expander.write?`
    * `Expander.cell`

  Main declarations:
    * `Expander.held_of_installs`
    * `Expander.held_apply`
    * `Expander.write?_setMode_of_ne`
    * `LineCall.run_eq_of_out_of_range`
    * `LineCall.run_eq_of_refused`
    * `LineCall.run_mode_of_state`
    * `LineCall.run_setMode_of_state`
-/

namespace DeviceBay

namespace Expander

------------------------------------------------------------
-- Lines of slots
------------------------------------------------------------

/- The use of a line in a slot, be the expander in reach or not. -/
def held
    (slot : Slot)
    (line : Fin lineCount) : LineMode :=
  ((slot.stateAs? .expander).getD {}).lines[line]

/-
  What an operation on a slot writes into a line. A state that
  is published from outside writes all lines.
-/
def write?
    (slot : Slot)
    (line : Fin lineCount) : SlotCall → Option LineMode
  | .line (.setMode j use) =>
      match slot.stateOf .expander with
      | .error _ => none
      | .ok _ => if j = line.val then some use else none
  | .publish .expander edit _ =>
      match slot.stateOf .expander with
      | .error _ => none
      | .ok s => some (edit s).lines[line]
  | _ => none

theorem write?_setMode_of_ne
    (slot : Slot)
    {line : Fin lineCount}
    {j : Nat}
    (use : LineMode)
    (hOther : j ≠ line.val) :
    write? slot line (.line (.setMode j use)) = none := by
  simp only [write?, if_neg hOther]
  split <;> rfl

theorem held_of_state
    {slot : Slot}
    {s : Expander}
    (hState : slot.stateOf .expander = .ok s)
    (line : Fin lineCount) :
    held slot line = s.lines[line] :=
  Slot.held_of_state (k := .expander) (fun s => s.lines[line])
    hState

theorem held_default
    (line : Fin lineCount) :
    ({} : Expander).lines[line] = .standard := by
  simp

section Operations

variable (env : Env) (clock : Clock) (slot : Slot)
variable (line : Fin lineCount)

/- All lines of an expander that was just installed are alike. -/
theorem held_of_installs
    {c : SlotCall}
    (hInstalls : c.installs = true) :
    held ((c.effect env clock slot).apply slot) line =
      .standard := by
  have hFresh :=
    Slot.held_of_installs env clock slot (k := .expander)
      (fun s => s.lines[line]) hInstalls
  exact hFresh.trans (held_default line)

/- Setting a line writes that line, behind the guard. -/
theorem held_setMode
    (j : Nat)
    (use : LineMode) :
    held
        (((SlotCall.line (.setMode j use)).effect env clock
          slot).apply slot) line =
      (write? slot line (.line (.setMode j use))).getD
        (held slot line) := by
  by_cases hLine : j < lineCount
  · have hWritten :
        write? slot line (.line (.setMode j use)) =
          slot.written? .expander
            (fun _ => if j = line.val then some use else none) := by
      cases hState : slot.stateOf .expander <;>
        simp only [write?, Slot.written?, hState]
    simp only [SlotCall.effect, LineCall.effect, dif_pos hLine]
    rw [hWritten]
    apply slot.held_update (k := .expander) clock _
      (fun s => s.lines[line])
    intro s
    by_cases hSame : j = line.val
    · simp [hSame]
    · simp [hSame, Vector.getElem_set_ne]
  · have hOther : j ≠ line.val := by
      rintro rfl
      exact hLine line.isLt
    rw [write?_setMode_of_ne slot use hOther]
    simp only [SlotCall.effect, LineCall.effect, dif_neg hLine]
    rfl

theorem held_publish
    (edit : Expander → Expander)
    (meanwhile : Option Duration) :
    held ((Effect.update clock .expander edit).apply slot) line =
      (write? slot line
        (.publish .expander edit meanwhile)).getD
        (held slot line) := by
  have hWritten :
      write? slot line (.publish .expander edit meanwhile) =
        slot.written? .expander
          (fun s => some (edit s).lines[line]) := by
    cases hState : slot.stateOf .expander <;>
      simp only [write?, Slot.written?, hState]
  rw [hWritten]
  exact slot.held_update (k := .expander) clock edit
    (fun s => s.lines[line]) _ (fun _ => rfl)

/-
  Only what an operation is listed to write changes in a line,
  unless it installs something.
-/
theorem held_apply
    {c : SlotCall}
    (hKeeps : c.installs = false) :
    held ((c.effect env clock slot).apply slot) line =
      (write? slot line c).getD (held slot line) := by
  have hOthers
      (effect : Effect)
      (hSpares : effect.Spares .expander) :
      held (effect.apply slot) line = held slot line :=
    slot.held_of_spares (k := .expander) (fun s => s.lines[line])
      effect hSpares
  cases c
  case presence c =>
    exact slot.held_presence (k := .expander)
      (fun s => s.lines[line]) hKeeps
  case publish k edit meanwhile =>
    cases k
    case expander =>
      exact held_publish clock slot line edit meanwhile
    all_goals exact hOthers (.update clock _ edit) nofun
  case motor c =>
    cases c with
    | ask q => rfl
    | tell c =>
        exact hOthers (.update clock .motor (c.apply env.owners))
          nofun
    | ignored c => rfl
  case imu c =>
    exact hOthers _ (c.effect_spares env.config clock slot nofun)
  case sensor c => exact hOthers _ (c.effect_spares clock nofun nofun)
  case line c =>
    cases c with
    | mode j => rfl
    | setMode j use => exact held_setMode env clock slot line j use
  all_goals rfl

end Operations

/- A line of the expander in a slot, as a cell. -/
def cell
    (line : Fin lineCount) : Slot.Cell LineMode where
  read slot := held slot line
  initial := .standard
  write? _ slot := write? slot line
  read_vacant _ := held_default line
  read_of_installs env clock slot _ hInstalls :=
    held_of_installs env clock slot line hInstalls
  read_apply env clock slot _ hKeeps :=
    held_apply env clock slot line hKeeps

end Expander

------------------------------------------------------------
-- Operations on lines
------------------------------------------------------------

namespace LineCall

variable {slot : Slot} {s : Expander} {c : LineCall}
variable (clock : Clock)

/- A line that the expander lacks is not looked for. -/
theorem run_eq_of_out_of_range
    (slot : Slot)
    (hLine : ¬ c.line < lineCount) :
    c.run clock slot =
      .still slot clock (.error (.outOfRange c.line)) := by
  cases c with
  | mode line =>
      simp only [LineCall.line] at hLine
      simp only [run, Expander.lineMode, dif_neg hLine]
      rfl
  | setMode line use =>
      simp only [LineCall.line] at hLine
      simp only [run, Expander.setLineMode, dif_neg hLine]
      rfl

/- What the guard refuses does nothing else than say so. -/
theorem run_eq_of_refused
    {e : SlotError}
    (hLine : c.line < lineCount)
    (hRefused : slot.validate .adi = .error e) :
    c.run clock slot =
      .still slot clock (.error (.slot e)) := by
  cases c with
  | mode line =>
      simp only [LineCall.line] at hLine
      simp only [run, Expander.lineMode, dif_pos hLine,
        Slot.look_of_refused (k := .expander) _ hRefused]
      rfl
  | setMode line use =>
      simp only [LineCall.line] at hLine
      simp only [run, Expander.setLineMode, dif_pos hLine,
        Slot.update_of_refused (k := .expander) clock _ hRefused]
      rfl

/- A line of an expander in reach answers what it is used for. -/
theorem run_mode_of_state
    (line : Fin lineCount)
    (hState : slot.stateOf .expander = .ok s) :
    (LineCall.mode line).run clock slot =
      .still slot clock (.ok (.lineMode s.lines[line])) := by
  simp only [run, Expander.lineMode, dif_pos line.isLt,
    Slot.look_of_state (k := .expander) _ hState]
  rfl

theorem run_setMode_of_state
    (line : Fin lineCount)
    (use : LineMode)
    (hState : slot.stateOf .expander = .ok s) :
    ((LineCall.setMode line use).run clock slot).result =
      .ok .unit := by
  simp only [run, Expander.setLineMode, dif_pos line.isLt,
    Slot.update_of_state (k := .expander) clock _ hState]
  rfl

end LineCall

end DeviceBay
