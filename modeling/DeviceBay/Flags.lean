/-
  This file defines sets of flags held in the bits of a word.
  A layout names some of the bits and may accept further ones
  without a name. A set keeps every bit that it is given,
  accepted or not.

  Key definitions include:
    * `FlagLayout`
    * `Flags`
    * `Flags.contains`
    * `Flags.insertIf`
    * `Flags.parts`
    * `Flags.describe`
-/

namespace DeviceBay

/-
  The meaning of the bits of a word: the named flags in order
  of declaration, and the spare bits that are accepted without
  a name.
-/
structure FlagLayout (w : Nat) where
  title : String
  named : List (String × BitVec w)
  spare : BitVec w

namespace FlagLayout

variable {w : Nat}

/- All bits that the layout accepts. -/
def all
    (layout : FlagLayout w) : BitVec w :=
  layout.named.foldr
    (fun flag bits => flag.2 ||| bits)
    layout.spare

def bitsOf?
    (layout : FlagLayout w)
    (name : String) : Option (BitVec w) :=
  (layout.named.find? (fun flag => flag.1 == name)).map (·.2)

end FlagLayout

structure Flags {w : Nat} (layout : FlagLayout w) where
  bits : BitVec w
deriving DecidableEq

namespace Flags

variable {w : Nat} {layout : FlagLayout w}

------------------------------------------------------------
-- Sets of bits
------------------------------------------------------------

def empty : Flags layout :=
  ⟨0⟩

def full : Flags layout :=
  ⟨layout.all⟩

/- Refuses bits that the layout does not accept. -/
def ofBits?
    (bits : BitVec w) : Option (Flags layout) :=
  if bits &&& ~~~layout.all = 0 then
    some ⟨bits⟩
  else
    none

/- Drops bits that the layout does not accept. -/
def ofBitsTruncate
    (bits : BitVec w) : Flags layout :=
  ⟨bits &&& layout.all⟩

def isEmpty
    (x : Flags layout) : Bool :=
  x.bits == 0

def contains
    (x y : Flags layout) : Bool :=
  x.bits &&& y.bits == y.bits

def intersects
    (x y : Flags layout) : Bool :=
  x.bits &&& y.bits != 0

def isAll
    (x : Flags layout) : Bool :=
  x.contains full

def union
    (x y : Flags layout) : Flags layout :=
  ⟨x.bits ||| y.bits⟩

def intersection
    (x y : Flags layout) : Flags layout :=
  ⟨x.bits &&& y.bits⟩

def difference
    (x y : Flags layout) : Flags layout :=
  ⟨x.bits &&& ~~~y.bits⟩

def symmetricDifference
    (x y : Flags layout) : Flags layout :=
  ⟨x.bits ^^^ y.bits⟩

/- The accepted bits that are not in the set. -/
def complement
    (x : Flags layout) : Flags layout :=
  ofBitsTruncate (~~~x.bits)

/- Puts the bits of `y` in, or takes them out. -/
def insertIf
    (x y : Flags layout)
    (present : Bool) : Flags layout :=
  if present then
    x.union y
  else
    x.difference y

------------------------------------------------------------
-- Named parts and written form
------------------------------------------------------------

/- The named flags that are wholly in the set. -/
def namedParts
    (x : Flags layout) : List (String × BitVec w) :=
  layout.named.filter
    (fun flag => x.contains ⟨flag.2⟩)

/- The bits of the set that belong to no named part. -/
def rest
    (x : Flags layout) : BitVec w :=
  x.namedParts.foldl
    (fun bits flag => bits &&& ~~~flag.2)
    x.bits

/- The named parts and what is left, which give the set back. -/
def parts
    (x : Flags layout) : List (BitVec w) :=
  x.namedParts.map (·.2) ++
    (if x.rest = 0 then [] else [x.rest])

def hexText
    (bits : BitVec w) : String :=
  "0x" ++ String.ofList (Nat.toDigits 16 bits.toNat)

def describe
    (x : Flags layout) : String :=
  let pieces :=
    x.namedParts.map (·.1) ++
      (if x.rest = 0 then [] else [hexText x.rest])
  let inside :=
    if x.isEmpty then "0x0" else String.intercalate " | " pieces
  layout.title ++ "(" ++ inside ++ ")"

end Flags

end DeviceBay
