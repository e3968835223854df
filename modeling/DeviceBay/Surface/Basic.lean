import DeviceBay.Bench.Value
import DeviceBay.Errno

/-
  This file defines how a raw call surface answers. Its calls
  give plain values: a failed one gives the failure value of
  its type and leaves a code in the error cell of the surface.
  A call that succeeds does not touch that cell.

  Key definitions include:
    * `failureCode`
    * `RawReply`
    * `RawReply.settle`
    * `RawReply.reject`
-/

namespace DeviceBay

------------------------------------------------------------
-- Failure values
------------------------------------------------------------

/- What a call that answers a signed word gives on failure. -/
def failureCode : Int32 :=
  2147483647

/- What a call that answers an unsigned word gives on failure. -/
def failureWord : UInt32 :=
  failureCode.toUInt32

/- What a call that answers a raw code gives on failure. -/
def failureByte : UInt8 :=
  failureWord.toUInt8

/- What a call that answers a number gives on failure. -/
def failureFloat : Binary64 :=
  .infinity

/- What a call that answers yes or no gives on failure. -/
def failureFlag : Bool :=
  failureCode != 0

------------------------------------------------------------
-- Replies
------------------------------------------------------------

/-
  What is left by a raw call on a slot: the value that it
  gives, the error cell, and all that a reply to an operation
  on a slot holds.
-/
structure RawReply where
  value : Value
  errno : Errno
  slot : Slot
  clock : Clock
  readings : List Instant := []
  events : List Event := []

/- The code that the failure of a slot leaves. -/
def SlotError.errno : SlotError → Errno
  | .disconnected _ => .noDevice
  | .incorrectDevice _ _ _ => .noDevice
  | .outOfRange _ => .invalidArgument

namespace RawReply

/-
  Gives what `render` makes of the result of an operation, or
  the failure value. A failure is reported at the end.
-/
def settle
    {α : Type}
    (errno : Errno)
    (failure : Value)
    (render : α → Value)
    (reply : Reply SlotError α) : RawReply :=
  match reply.result with
  | .ok value =>
      { value := render value
        errno := errno
        slot := reply.slot
        clock := reply.clock
        readings := reply.readings
        events := reply.events }
  | .error e =>
      { value := failure
        errno := e.errno
        slot := reply.slot
        clock := reply.clock
        readings := reply.readings
        events := reply.events ++ [.guardFailed e] }

/- Settles an operation that answers nothing. -/
def settleUnit
    (errno : Errno)
    (reply : Reply SlotError Unit) : RawReply :=
  settle errno .unit (fun _ => .unit) reply

/- Refuses a raw code that stands for nothing. -/
def reject
    (slot : Slot)
    (clock : Clock)
    (e : UnknownVariant) : RawReply where
  value := .unit
  errno := .invalidArgument
  slot := slot
  clock := clock
  events := [.rawRejected e]

/- The reply of a raw call that cannot fail. -/
def plain
    (errno : Errno)
    (slot : Slot)
    (clock : Clock)
    (value : Value)
    (events : List Event) : RawReply where
  value := value
  errno := errno
  slot := slot
  clock := clock
  events := events

end RawReply

end DeviceBay
