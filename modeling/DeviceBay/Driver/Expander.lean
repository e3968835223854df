import DeviceBay.Slot.Access

/-
  This file defines the driver of a three-wire expander. A line
  outside of the expander is refused before the slot is looked
  at.

  Key definitions include:
    * `Expander.lineMode`
    * `Expander.setLineMode`
-/

namespace DeviceBay.Expander

def lineMode
    (slot : Slot)
    (line : Nat) : Except LineError LineMode :=
  if h : line < lineCount then
    (slot.look .expander (fun s _ => s.lines[line])).mapError .slot
  else
    .error (.outOfRange line)

def setLineMode
    (clock : Clock)
    (slot : Slot)
    (line : Nat)
    (mode : LineMode) : Reply LineError Unit :=
  if h : line < lineCount then
    let reply :=
      slot.update clock .expander
        (fun s => { s with lines := s.lines.set line mode })
    (reply.map (fun _ => ())).mapError .slot
  else
    .still slot clock (.error (.outOfRange line))

end DeviceBay.Expander
