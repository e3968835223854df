import DeviceBay.Surface.Call

/-
  This file defines a bench: bays of devices that share a clock
  and a program's tuning constants, raw surfaces over the bays,
  and copies of slots that were put aside.

  Key definitions include:
    * `Surface`
    * `Bench`
    * `Bench.fresh`
    * `Bench.env`
    * `Bench.settle`
-/

namespace DeviceBay

/- A raw surface over one of the bays, with its error cell. -/
structure Surface (n : Nat) where
  bay : Fin n
  errno : Errno := .clear

structure Bench (n m : Nat) where
  clock : Clock
  owners : Owners := {}
  bays : Vector Bay n
  surfaces : Vector (Surface n) m
  copies : List (String × Slot) := []

namespace Bench

variable {n m : Nat}

/- A bench of bays in which nothing was ever installed. -/
def fresh
    (clock : Clock)
    (configs : Vector Config n)
    (views : Vector (Fin n) m) : Bench n m where
  clock := clock
  bays := configs.map Bay.fresh
  surfaces := views.map (fun bay => { bay := bay })

def bay
    (bench : Bench n m)
    (b : Fin n) : Bay :=
  bench.bays[b]

def surface
    (bench : Bench n m)
    (s : Fin m) : Surface n :=
  bench.surfaces[s]

def slot
    (bench : Bench n m)
    (b : Fin n)
    (i : SlotIndex) : Slot :=
  (bench.bay b).slot i

/- What operations on the slots of a bay may look at. -/
def env
    (bench : Bench n m)
    (b : Fin n) : Env where
  config := (bench.bay b).config
  owners := bench.owners

def setSlot
    (bench : Bench n m)
    (b : Fin n)
    (i : SlotIndex)
    (slot : Slot) : Bench n m :=
  { bench with
    bays := bench.bays.set b ((bench.bay b).setSlot i slot) }

def setErrno
    (bench : Bench n m)
    (s : Fin m)
    (errno : Errno) : Bench n m :=
  { bench with
    surfaces :=
      bench.surfaces.set s
        { bench.surface s with errno := errno } }

/- The bench after an operation on a slot left a slot and a clock. -/
def settle
    (bench : Bench n m)
    (b : Fin n)
    (i : SlotIndex)
    (slot : Slot)
    (clock : Clock) : Bench n m :=
  { bench.setSlot b i slot with clock := clock }

/- The copy that was put aside under a name. -/
def copy?
    (bench : Bench n m)
    (name : String) : Option Slot :=
  (bench.copies.find? (fun entry => entry.1 == name)).map (·.2)

def saveCopy
    (bench : Bench n m)
    (name : String)
    (slot : Slot) : Bench n m :=
  { bench with copies := (name, slot) :: bench.copies }

end Bench

end DeviceBay
