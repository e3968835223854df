import DeviceBay.Surface.Basic

/-
  This file defines the raw calls on a radio. Each opens a link
  first. None of them can fail.

  Key definitions include:
    * `RawRadioCall`
    * `RawRadioCall.request?`
    * `RawRadioCall.render`
    * `RawRadioCall.run`
-/

namespace DeviceBay

inductive RawRadioCall
  | receiveAvailable
  | receiveFree
  | connection (id : String) (linkType : Int32) (replace : Bool)
  | linkStatus
  | writeFree
  | transmit (bytes : List UInt8)
  | receive (buffer : List UInt8)
deriving DecidableEq

namespace RawRadioCall

/- The role that a raw link type means. -/
def roleOf
    (linkType : Int32) : LinkRole :=
  if linkType = 0 then .manager else .worker

/- The link that a call opens. -/
def link : RawRadioCall → String × LinkRole
  | .connection id linkType _ => (id, roleOf linkType)
  | _ => ("", .worker)

/- What a call asks of its link, besides opening it. -/
def request? : RawRadioCall → Option RadioCall
  | .receiveAvailable => some .unreadBytes
  | .receiveFree => some .receiveFree
  | .connection _ _ _ => none
  | .linkStatus => some .isLinked
  | .writeFree => some .availableWriteBytes
  | .transmit bytes => some (.write bytes)
  | .receive buffer => some (.read buffer)

/- How many bytes were moved. A transfer that fails moved none. -/
def moved
    (result : Except TransferError Nat) : Nat :=
  match result with
  | .ok count => count
  | .error _ => 0

/-
  The raw value of what a link answers. A count is cut to the
  width of a word, and a buffer is given back with its count.
-/
def render :
    (request : RadioCall) →
      Except TransferError request.Answer → Value
  | .unreadBytes, result => .nat (UInt32.ofNat (moved result)).toNat
  | .receiveFree, result => .nat (UInt32.ofNat (moved result)).toNat
  | .availableWriteBytes, result =>
      .int (Int32.ofNat (moved result)).toInt
  | .isLinked, result => .bool (result.toOption.getD false)
  | .write _, result => .int (Int32.ofNat (moved result)).toInt
  | .read buffer, result =>
      match result with
      | .ok received =>
          .codedBytes (Int32.ofNat received.count) received.buffer
      | .error _ => .codedBytes 0 buffer
  -- No raw call asks a link for the rest.
  | .flush, _ => .unit
  | .writeAll _, _ => .unit
  | .readExact _, _ => .unit
  | .readToEnd _, _ => .unit

def value
    (c : RawRadioCall) : Value :=
  match c.request? with
  | none => .unit
  | some request => render request request.answer

def run
    (clock : Clock)
    (slot : Slot)
    (errno : Errno)
    (c : RawRadioCall) : RawReply :=
  let asked :=
    match c.request? with
    | none => []
    | some request => request.events slot.index
  let events := openLink slot.index c.link.1 c.link.2 ++ asked
  .plain errno slot clock c.value events

end RawRadioCall

end DeviceBay
