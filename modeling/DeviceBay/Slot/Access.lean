import DeviceBay.Config
import DeviceBay.Event
import DeviceBay.Slot.Basic
import DeviceBay.Time.Clock

/-
  This file defines the two ways to the state in a slot: looking
  at it, which changes nothing, and updating it, which takes one
  reading of the clock as the new timestamp. Both pass the guard
  first, and an operation that the guard stops does nothing.

  Key definitions include:
    * `Reply`
    * `Env`
    * `Slot.look`
    * `Slot.update`
    * `Slot.publish`
-/

namespace DeviceBay

/-
  What is left by an operation on a slot: its result, the slot
  and the clock after it, the readings of the clock that it
  took, and what was reported, both in order.
-/
structure Reply (ε α : Type) where
  result : Except ε α
  slot : Slot
  clock : Clock
  readings : List Instant := []
  events : List Event := []

namespace Reply

variable {ε δ α β : Type}

/- The reply of an operation that changes nothing. -/
def still
    (slot : Slot)
    (clock : Clock)
    (result : Except ε α) : Reply ε α where
  result := result
  slot := slot
  clock := clock

def map
    (f : α → β)
    (reply : Reply ε α) : Reply ε β where
  result := reply.result.map f
  slot := reply.slot
  clock := reply.clock
  readings := reply.readings
  events := reply.events

def mapError
    (f : ε → δ)
    (reply : Reply ε α) : Reply δ α where
  result := reply.result.mapError f
  slot := reply.slot
  clock := reply.clock
  readings := reply.readings
  events := reply.events

/- Reports further events, which depend on a result, at the end. -/
def report
    (events : α → List Event)
    (reply : Reply ε α) : Reply ε α :=
  match reply.result with
  | .error _ => reply
  | .ok value =>
      { reply with events := reply.events ++ events value }

end Reply

/- What an operation on a slot may look at besides the slot. -/
structure Env where
  config : Config := {}
  owners : Owners := {}

namespace Slot

/- What `f` makes of the state and its timestamp. -/
def look
    {α : Type}
    (slot : Slot)
    (k : Kind)
    (f : k.State → Instant → α) : Except SlotError α :=
  (slot.stateOf k).map (fun state => f state slot.timestamp)

/-
  Replaces the state by what `edit` makes of it, and answers
  the state before. The reading for the timestamp is taken
  after the guard and before the change.
-/
def update
    (slot : Slot)
    (clock : Clock)
    (k : Kind)
    (edit : k.State → k.State) : Reply SlotError k.State :=
  match slot.stateOf k with
  | .error e => .still slot clock (.error e)
  | .ok before =>
      let (now, after) := clock.read
      { result := .ok before
        slot :=
          { slot with
            timestamp := now
            state := .of k (edit before) }
        clock := after
        readings := [now] }

/-
  An update from outside, during which the clock may be moved.
-/
def publish
    (slot : Slot)
    (clock : Clock)
    (k : Kind)
    (edit : k.State → k.State)
    (meanwhile : Option Duration) : Reply SlotError Unit :=
  let reply := slot.update clock k edit
  match reply.result, meanwhile with
  | .ok _, some d =>
      { reply.map (fun _ => ()) with
        clock := reply.clock.advance d }
  | _, _ => reply.map (fun _ => ())

end Slot

end DeviceBay
