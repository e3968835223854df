import DeviceBay.Bench.Basic
import DeviceBay.Bench.SlotCall

/-
  This file defines the steps that a bench takes and what each
  step answers and reports.

  Key definitions include:
    * `Step`
    * `Answer`
    * `Outcome`
    * `Bench.step`
    * `Bench.run`
-/

namespace DeviceBay

------------------------------------------------------------
-- Steps
------------------------------------------------------------

/- A question about a whole bay. -/
inductive BayCall
  | count
  | countByType (t : DeviceType)
  | status
  | indices
  | now
  | config
  | describe
deriving DecidableEq

/- A use of the copies of slots that were put aside. -/
inductive CopyCall
  | save (name : String)
  | compare (name : String)
deriving DecidableEq

/- A question to a handle about more than its slot. -/
inductive HandleRelation (n : Nat)
  | deviceCount
  | same (b : Fin n) (i : Nat)
deriving DecidableEq

/- A use of a raw surface without a handle. -/
inductive SurfaceCall
  | errno (c : ErrnoStep)
  | bayCount
  | describe
  | install (i : Nat) (code : UInt8)
  | directory (c : DirectoryCall)

/- A handle of the bay behind a surface, or of any other bay. -/
inductive Handle (n : Nat)
  | own (i : Nat)
  | elsewhere (b : Fin n) (i : Nat)
deriving DecidableEq

/-
  A step of a run on a bench of `n` bays and `m` surfaces.
  Slots are given by any number.
-/
inductive Step (n m : Nat)
  | clock (c : ClockStep)
  | owner (c : OwnerStep)
  | bay (b : Fin n) (c : BayCall)
  | slot (b : Fin n) (i : Nat) (c : SlotCall)
  | copy (b : Fin n) (i : Nat) (c : CopyCall)
  | relation (b : Fin n) (i : Nat) (c : HandleRelation n)
  | surface (s : Fin m) (c : SurfaceCall)
  | device (s : Fin m) (h : Handle n) (c : DeviceCall)

------------------------------------------------------------
-- Outcomes
------------------------------------------------------------

/-
  What a step answers. A raw call answers a value in any case,
  together with the error cell of its surface after it, unless
  it has no handle to be made on.
-/
inductive Answer
  | value (value : Value)
  | failed (failure : Failure)
  | raw (value : Value) (errno : Errno)
  | noHandle (errno : Errno)

/- The answer of a step, its clock readings and its reports. -/
structure Outcome where
  answer : Answer
  readings : List Instant := []
  events : List Event := []

namespace Answer

def ofResult : Except Failure Value → Answer
  | .ok v => .value v
  | .error e => .failed e

end Answer

------------------------------------------------------------
-- Running
------------------------------------------------------------

namespace OwnerStep

/- What the step answers, and the owners after it. -/
def apply
    (owners : Owners) : OwnerStep → Value × Owners
  | .create name constants => (.unit, owners.create name constants)
  | .share name other => (.unit, owners.share name other)
  | .drop name =>
      (.bool (owners.allocation? name).isSome, owners.drop name)
  | .strongCount name => (.nat (owners.strongCount name), owners)

end OwnerStep

namespace Bench

variable {n m : Nat}

/- A step that answers a value and changes nothing. -/
def observe
    (bench : Bench n m)
    (value : Value) : Bench n m × Outcome :=
  (bench, { answer := .value value })

/- Asks a bay. Only the time is a reading of the clock. -/
def stepBay
    (bench : Bench n m)
    (b : Fin n) : BayCall → Bench n m × Outcome
  | .count => bench.observe (.nat (bench.bay b).count)
  | .countByType t =>
      bench.observe (.nat ((bench.bay b).countByType t))
  | .status =>
      bench.observe (.deviceTypes (bench.bay b).status.toList)
  | .indices => bench.observe (.nats Bay.indices)
  | .now =>
      let (now, after) := bench.clock.read
      ({ bench with clock := after },
        { answer := .value (.instant now), readings := [now] })
  | .config => bench.observe (.config (bench.bay b).config)
  | .describe => bench.observe (.text (bench.bay b).describe)

/- Runs an operation on the slot that a number means. -/
def stepSlot
    (bench : Bench n m)
    (b : Fin n)
    (i : Nat)
    (c : SlotCall) : Bench n m × Outcome :=
  match Bay.index? i with
  | .error e => (bench, { answer := .failed (.slot e) })
  | .ok index =>
      let reply := c.run (bench.env b) bench.clock (bench.slot b index)
      (bench.settle b index reply.slot reply.clock,
        { answer := .ofResult reply.result
          readings := reply.readings
          events := reply.events })

/- A copy that was never put aside equals no slot. -/
def stepCopy
    (bench : Bench n m)
    (b : Fin n)
    (i : Nat)
    (c : CopyCall) : Bench n m × Outcome :=
  match Bay.index? i with
  | .error e => (bench, { answer := .failed (.slot e) })
  | .ok index =>
      let slot := bench.slot b index
      match c with
      | .save name =>
          (bench.saveCopy name slot, { answer := .value .unit })
      | .compare name =>
          match bench.copy? name with
          | none => bench.observe (.comparison false false)
          | some saved =>
              bench.observe
                (.comparison
                  (saved.eqv slot)
                  (saved.state.eqv slot.state))

/- Two handles are the same if their bays and their slots are. -/
def stepRelation
    (bench : Bench n m)
    (b : Fin n)
    (i : Nat)
    (c : HandleRelation n) : Bench n m × Outcome :=
  match Bay.index? i with
  | .error e => (bench, { answer := .failed (.slot e) })
  | .ok index =>
      match c with
      | .deviceCount => bench.observe (.nat (bench.bay b).count)
      | .same other j =>
          match Bay.index? j with
          | .error e => (bench, { answer := .failed (.slot e) })
          | .ok otherIndex =>
              bench.observe
                (.bool (decide (b = other ∧ index = otherIndex)))

/- Uses a surface. Installing is the only use that can fail. -/
def stepSurface
    (bench : Bench n m)
    (s : Fin m)
    (c : SurfaceCall) : Bench n m × Outcome :=
  let surface := bench.surface s
  match c with
  | .errno c =>
      let (code, after) := c.apply surface.errno
      let value : Value :=
        match code with
        | none => .unit
        | some code => .int code.toInt
      (bench.setErrno s after, { answer := .raw value after })
  | .bayCount =>
      (bench,
        { answer :=
            .raw (.nat (bench.bay surface.bay).count) surface.errno })
  | .describe =>
      let text :=
        "Jumptable \x7b table: " ++ (bench.bay surface.bay).describe ++
          ", errno: " ++ surface.errno.describe ++ " \x7d"
      (bench, { answer := .raw (.text text) surface.errno })
  | .install i code =>
      match Bay.index? i with
      | .error e =>
          (bench.setErrno s e.errno,
            { answer := .raw .unit e.errno
              events := [.guardFailed e] })
      | .ok index =>
          let call := PresenceCall.install (DeviceType.ofCode? code)
          let slot := bench.slot surface.bay index
          (bench.setSlot surface.bay index (call.apply slot),
            { answer := .raw .unit surface.errno
              events := [call.event slot] })
  | .directory c =>
      (bench,
        { answer :=
            .raw (c.answer (bench.bay surface.bay)) surface.errno })

/- The slot behind a handle, if there is one. -/
def resolve
    (bench : Bench n m)
    (s : Fin m) : Handle n → Option (Fin n × SlotIndex)
  | .own i =>
      (DirectoryCall.handle? i).map
        (fun index => ((bench.surface s).bay, index))
  | .elsewhere b i =>
      (DirectoryCall.handle? i).map (fun index => (b, index))

/- Makes a raw call on the device behind a handle. -/
def stepDevice
    (bench : Bench n m)
    (s : Fin m)
    (h : Handle n)
    (c : DeviceCall) : Bench n m × Outcome :=
  let errno := (bench.surface s).errno
  match bench.resolve s h with
  | none => (bench, { answer := .noHandle errno })
  | some (b, index) =>
      let reply :=
        c.run (bench.env b) bench.clock (bench.slot b index) errno
      let after := bench.settle b index reply.slot reply.clock
      (after.setErrno s reply.errno,
        { answer := .raw reply.value reply.errno
          readings := reply.readings
          events := reply.events })

def step
    (bench : Bench n m) : Step n m → Bench n m × Outcome
  | .clock c =>
      ({ bench with clock := c.apply bench.clock },
        { answer := .value .unit })
  | .owner c =>
      let (value, owners) := c.apply bench.owners
      ({ bench with owners := owners }, { answer := .value value })
  | .bay b c => bench.stepBay b c
  | .slot b i c => bench.stepSlot b i c
  | .copy b i c => bench.stepCopy b i c
  | .relation b i c => bench.stepRelation b i c
  | .surface s c => bench.stepSurface s c
  | .device s h c => bench.stepDevice s h c

/- The bench after all steps, and the outcome of each in order. -/
def run
    (bench : Bench n m) :
    List (Step n m) → Bench n m × List Outcome
  | [] => (bench, [])
  | s :: rest =>
      let (next, outcome) := bench.step s
      let (last, outcomes) := next.run rest
      (last, outcome :: outcomes)

end Bench

end DeviceBay
