import DeviceBay.Binary64.Basic

/-
  This file defines the tuning constants of motor controllers
  and the names that own them. A motor only refers to its
  constants: it has them for as long as some name owns them.

  Key definitions include:
    * `TuningConstants`
    * `TuningRef`
    * `Owners`
    * `Owners.strongCount`
    * `Owners.constants?`
-/

namespace DeviceBay

structure TuningConstants where
  feedForward : Binary64
  proportional : Binary64
  integral : Binary64
  derivative : Binary64
  filter : Binary64
  integralLimit : Binary64
  tolerance : Binary64
  sampleRate : UInt32
deriving DecidableEq

namespace TuningConstants

/- Equality of constants, compared as values. -/
def eqv
    (a b : TuningConstants) : Bool :=
  a.feedForward.eqv b.feedForward &&
    a.proportional.eqv b.proportional &&
    a.integral.eqv b.integral &&
    a.derivative.eqv b.derivative &&
    a.filter.eqv b.filter &&
    a.integralLimit.eqv b.integralLimit &&
    a.tolerance.eqv b.tolerance &&
    a.sampleRate == b.sampleRate

end TuningConstants

/-
  One set of constants among all that were ever made, by its
  place in the order of making.
-/
structure Allocation where
  place : Nat
deriving DecidableEq

/- A reference that owns nothing, or one never set. -/
abbrev TuningRef :=
  Option Allocation

/- Constants and the number of owners that they have left. -/
structure OwnedConstants where
  constants : TuningConstants
  owners : Nat
deriving DecidableEq

/- Constants as read through a reference to them. -/
structure HeldTuning where
  allocation : Allocation
  constants : TuningConstants
deriving DecidableEq

/-
  All constants ever made, in order, and what each name owns,
  with the names in alphabetical order. A place is never used
  again, so a reference never comes back to life.
-/
structure Owners where
  made : List OwnedConstants := []
  held : List (String × Allocation) := []

namespace Owners

------------------------------------------------------------
-- Looking
------------------------------------------------------------

/- What a name owns. -/
def allocation?
    (owners : Owners)
    (name : String) : TuningRef :=
  (owners.held.find? (fun entry => entry.1 == name)).map (·.2)

/- The number of owners that an allocation has left. -/
def countOf
    (owners : Owners)
    (a : Allocation) : Nat :=
  match owners.made[a.place]? with
  | none => 0
  | some owned => owned.owners

/- The number of owners of what a name owns. -/
def strongCount
    (owners : Owners)
    (name : String) : Nat :=
  match owners.allocation? name with
  | none => 0
  | some a => owners.countOf a

/- What a reference reads: nothing once the last owner is gone. -/
def constants?
    (owners : Owners)
    (ref : TuningRef) : Option TuningConstants :=
  match ref with
  | none => none
  | some a =>
      match owners.made[a.place]? with
      | none => none
      | some owned =>
          if owned.owners = 0 then none else some owned.constants

/- What a reference leads to: nothing once the last owner is gone. -/
def held?
    (owners : Owners)
    (ref : TuningRef) : Option HeldTuning :=
  match ref, owners.constants? ref with
  | some a, some constants => some ⟨a, constants⟩
  | _, _ => none

/- The first name in alphabetical order that owns what `ref` means. -/
def firstOwner?
    (owners : Owners)
    (ref : TuningRef) : Option String :=
  (owners.held.find? (fun entry => some entry.2 == ref)).map (·.1)

------------------------------------------------------------
-- Changing
------------------------------------------------------------

/- Puts an entry in its alphabetical place, over an older one. -/
def insertEntry
    (name : String)
    (a : Allocation) :
    List (String × Allocation) → List (String × Allocation)
  | [] => [(name, a)]
  | entry :: rest =>
      if name < entry.1 then
        (name, a) :: entry :: rest
      else if name == entry.1 then
        (name, a) :: rest
      else
        entry :: insertEntry name a rest

/- Counts one owner more. -/
def retain
    (owners : Owners)
    (a : Allocation) : Owners :=
  { owners with
    made := owners.made.modify a.place
      (fun owned => { owned with owners := owned.owners + 1 }) }

/- Counts one owner less. -/
def release
    (owners : Owners)
    (a : Allocation) : Owners :=
  { owners with
    made := owners.made.modify a.place
      (fun owned => { owned with owners := owned.owners - 1 }) }

/- Takes from a name what it owns. -/
def drop
    (owners : Owners)
    (name : String) : Owners :=
  match owners.allocation? name with
  | none => owners
  | some a =>
      let rest := owners.held.filter (fun entry => entry.1 != name)
      { owners.release a with held := rest }

/- Lets a name own an allocation in place of what it owned. -/
def assign
    (owners : Owners)
    (name : String)
    (a : Allocation) : Owners :=
  let after := (owners.retain a).drop name
  { after with held := insertEntry name a after.held }

/- Makes new constants, owned by a name. -/
def create
    (owners : Owners)
    (name : String)
    (constants : TuningConstants) : Owners :=
  let grown : Owners :=
    { owners with made := owners.made ++ [⟨constants, 0⟩] }
  grown.assign name ⟨owners.made.length⟩

/- Makes a name a further owner of what another name owns. -/
def share
    (owners : Owners)
    (name other : String) : Owners :=
  match owners.allocation? other with
  | none => owners
  | some a => owners.assign name a

end Owners

/- A step of the program that owns tuning constants. -/
inductive OwnerStep
  | create (name : String) (constants : TuningConstants)
  | share (name other : String)
  | drop (name : String)
  | strongCount (name : String)

end DeviceBay
