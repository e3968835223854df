/-
  This file defines the error cell of a raw call surface.

  Key definitions include:
    * `Errno`
    * `Errno.take`
    * `ErrnoStep`
-/

namespace DeviceBay

/- The code of the last error, or zero. -/
structure Errno where
  code : Int32
deriving DecidableEq

namespace Errno

def clear : Errno :=
  ⟨0⟩

/- No device, or not the right one, is connected. -/
def noDevice : Errno :=
  ⟨19⟩

/- An argument is outside of its range. -/
def invalidArgument : Errno :=
  ⟨22⟩

def describe
    (e : Errno) : String :=
  "Errno(" ++ toString e.code.toInt ++ ")"

end Errno

/- A direct use of an error cell. -/
inductive ErrnoStep
  | get
  | set (code : Int32)
  | take

namespace ErrnoStep

/-
  What the step answers, if it answers, and the cell after it.
  Taking a code clears the cell.
-/
def apply
    (cell : Errno) : ErrnoStep → Option Int32 × Errno
  | .get => (some cell.code, cell)
  | .set code => (none, ⟨code⟩)
  | .take => (some cell.code, Errno.clear)

end ErrnoStep

end DeviceBay
