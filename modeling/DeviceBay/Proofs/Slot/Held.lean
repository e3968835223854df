import DeviceBay.Proofs.Slot.Effect

/-
  This file treats what is read off the state in a slot as a
  cell that only listed operations write. It proves once how a
  cell fares under each effect, be the device in reach or not.

  Key definitions include:
    * `Slot.held`
    * `Slot.written?`
    * `Slot.Cell`

  Main declarations:
    * `Slot.held_of_spares`
    * `Slot.held_update`
    * `Slot.held_of_installs`
-/

namespace DeviceBay

namespace Slot

variable {α : Type} {k : Kind}

------------------------------------------------------------
-- What is held in a slot
------------------------------------------------------------

/-
  What is read off the state of a kind, be the device in reach
  or not. A slot without such a state counts as a fresh device.
-/
def held
    (slot : Slot)
    (k : Kind)
    (get : k.State → α) : α :=
  get ((slot.stateAs? k).getD k.zero)

theorem held_of_state
    {slot : Slot}
    {s : k.State}
    (get : k.State → α)
    (hState : slot.stateOf k = .ok s) :
    slot.held k get = get s := by
  rw [held, stateAs?_of_stateOf hState]
  rfl

theorem held_of_spares
    (slot : Slot)
    (get : k.State → α)
    (effect : Effect)
    (hSpares : effect.Spares k) :
    (effect.apply slot).held k get = slot.held k get := by
  rw [held, held, Effect.apply_stateAs?_of_spares slot hSpares]

/- Putting a device in or out of reach changes nothing in it. -/
theorem held_presence
    (slot : Slot)
    (get : k.State → α)
    {c : PresenceCall}
    (hKeeps : (SlotCall.presence c).installs = false) :
    (c.apply slot).held k get = slot.held k get := by
  cases c with
  | install t => cases hKeeps
  | plugIn t => cases hKeeps
  | connect => rfl
  | disconnect => rfl

/- A device that was just put in is as its kind starts out. -/
theorem held_of_installs
    (env : Env)
    (clock : Clock)
    (slot : Slot)
    (get : k.State → α)
    {c : SlotCall}
    (hInstalls : c.installs = true) :
    ((c.effect env clock slot).apply slot).held k get =
      get k.zero := by
  rcases SlotCall.stateAs?_of_installs env clock slot hInstalls k
    with hNone | hFresh
  · rw [held, hNone]
    rfl
  · rw [held, hFresh]
    rfl

------------------------------------------------------------
-- Writes behind the guard
------------------------------------------------------------

/- What is told to a device, which hears it behind the guard. -/
def written?
    (slot : Slot)
    (k : Kind)
    (told? : k.State → Option α) : Option α :=
  match slot.stateOf k with
  | .error _ => none
  | .ok s => told? s

theorem written?_none
    (slot : Slot)
    (k : Kind) :
    slot.written? k (fun _ => (none : Option α)) = none := by
  unfold written?
  split <;> rfl

/- An update that the guard stops writes nothing. -/
theorem held_update
    (slot : Slot)
    (clock : Clock)
    (edit : k.State → k.State)
    (get : k.State → α)
    (told? : k.State → Option α)
    (hEdit : ∀ s, get (edit s) = (told? s).getD (get s)) :
    ((Effect.update clock k edit).apply slot).held k get =
      (slot.written? k told?).getD (slot.held k get) := by
  cases hState : slot.stateOf k with
  | error e =>
      rw [Effect.apply, update_slot_of_error clock edit hState,
        written?, hState]
      rfl
  | ok s =>
      rw [held, Effect.apply, update_stateAs? clock edit hState,
        held_of_state get hState, written?, hState]
      exact hEdit s

/- What leaves a part of a state alone leaves it in the slot. -/
theorem held_update_of_keeps
    (slot : Slot)
    (clock : Clock)
    (edit : k.State → k.State)
    (get : k.State → α)
    (hEdit : ∀ s, get (edit s) = get s) :
    ((Effect.update clock k edit).apply slot).held k get =
      slot.held k get := by
  have hUpdate :=
    slot.held_update clock edit get (fun _ => none) hEdit
  rw [hUpdate, written?_none]
  rfl

------------------------------------------------------------
-- Cells
------------------------------------------------------------

/-
  A cell of a slot. It starts afresh with each device that is
  put in, and any other operation either writes it, as `write?`
  says, or leaves it alone.
-/
structure Cell (α : Type) where
  read : Slot → α
  initial : α
  write? : Env → Slot → SlotCall → Option α
  read_vacant (i : SlotIndex) : read { index := i } = initial
  read_of_installs (env : Env) (clock : Clock) (slot : Slot)
      {c : SlotCall} (hInstalls : c.installs = true) :
      read ((c.effect env clock slot).apply slot) = initial
  read_apply (env : Env) (clock : Clock) (slot : Slot)
      {c : SlotCall} (hKeeps : c.installs = false) :
      read ((c.effect env clock slot).apply slot) =
        (write? env slot c).getD (read slot)

end Slot

end DeviceBay
