import DeviceBay.Slot.Access

/-
  This file defines a radio link that never finds a partner. It
  moves no bytes, and what it answers depends on nothing in its
  slot.

  Key definitions include:
    * `RadioCall`
    * `RadioCall.activities`
    * `RadioCall.answer`
    * `openLink`
-/

namespace DeviceBay

/- What can be asked of an open link. -/
inductive RadioCall
  | unreadBytes
  | receiveFree
  | availableWriteBytes
  | isLinked
  | flush
  | write (bytes : List UInt8)
  | writeAll (bytes : List UInt8)
  | read (buffer : List UInt8)
  | readExact (buffer : List UInt8)
  | readToEnd (buffer : List UInt8)
deriving DecidableEq

/- The bytes moved into a buffer, and the buffer after them. -/
structure Received where
  count : Nat
  buffer : List UInt8
deriving DecidableEq

namespace RadioCall

abbrev Answer : RadioCall → Type
  | .unreadBytes => Nat
  | .receiveFree => Nat
  | .availableWriteBytes => Nat
  | .isLinked => Bool
  | .flush => Unit
  | .write _ => Nat
  | .writeAll _ => Unit
  | .read _ => Received
  | .readExact _ => Unit
  | .readToEnd _ => Received

/-
  How often each buffer is polled or moved. A call that must
  move bytes tries once, and only if there are bytes to move.
-/
def activities : RadioCall → List RadioActivity
  | .unreadBytes => [.unreadPolled]
  | .receiveFree => [.receiveSpacePolled]
  | .availableWriteBytes => [.transmitSpacePolled]
  | .isLinked => [.linkPolled]
  | .flush => []
  | .write _ => [.transmitted]
  | .writeAll bytes => if bytes.isEmpty then [] else [.transmitted]
  | .read _ => [.received]
  | .readExact buffer => if buffer.isEmpty then [] else [.received]
  | .readToEnd _ => [.received]

def answer : (c : RadioCall) → Except TransferError c.Answer
  | .unreadBytes => .ok (0 : Nat)
  | .receiveFree => .ok (0 : Nat)
  | .availableWriteBytes => .ok (0 : Nat)
  | .isLinked => .ok false
  | .flush => .ok ()
  | .write _ => .ok (0 : Nat)
  | .writeAll bytes =>
      if bytes.isEmpty then .ok () else .error .nothingWritten
  | .read buffer => .ok ⟨0, buffer⟩
  | .readExact buffer =>
      if buffer.isEmpty then .ok () else .error .unexpectedEnd
  | .readToEnd buffer => .ok ⟨0, buffer⟩

/- What a link reports while it serves a call. -/
def events
    (slot : SlotIndex)
    (c : RadioCall) : List Event :=
  c.activities.map (.radio slot)

end RadioCall

/- The report of a request for a link. -/
def openLink
    (slot : SlotIndex)
    (id : String)
    (role : LinkRole) : List Event :=
  [.linkRequested slot id role]

end DeviceBay
