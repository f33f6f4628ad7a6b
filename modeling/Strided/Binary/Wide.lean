import Strided.RealFunctions

/-! Floating-point numbers of 32 and 64 bits.

A machine number with the sign of a not-a-number beside it. The machine's own type has one
not-a-number only, but the sign bit of one can be flipped and is looked at by the complex root.
An operation hands on the sign of its first operand that is not-a-number; a not-a-number that
arises from numbers has its sign bit set.
-/

set_option autoImplicit false

namespace Strided.Binary

structure Wide (α : Type) where
  value : α
  /-- Whether the sign bit of a not-a-number is set. Any other value shows its sign by itself. -/
  nanIsNegative : Bool
  deriving Repr

abbrev Single := Wide Float32
abbrev Double := Wide Float

namespace Wide

variable {α : Type}

/-- A number, or the not-a-number whose sign bit is clear. -/
def ofValue (x : α) : Wide α :=
  ⟨x, false⟩

variable [RealFunctions α]

open RealFunctions

def nanSign? (x : Wide α) : Option Bool :=
  if isNaN x.value then some x.nanIsNegative else none

/-- The outcome of an operation, given its operands in order. -/
def outcome (value : α) (operands : List (Wide α)) : Wide α :=
  ⟨value, isNaN value && (operands.findSome? nanSign?).getD true⟩

def map (op : α → α) (x : Wide α) : Wide α :=
  outcome (op x.value) [x]

def map₂ (op : α → α → α) (x y : Wide α) : Wide α :=
  outcome (op x.value y.value) [x, y]

def neg (x : Wide α) : Wide α :=
  ⟨-x.value, isNaN x.value && !x.nanIsNegative⟩

/-- Equality of the numbers: not-a-number differs from itself. -/
instance : RealFunctions (Wide α) where
  add := map₂ (· + ·)
  sub := map₂ (· - ·)
  mul := map₂ (· * ·)
  div := map₂ (· / ·)
  neg := neg
  beq x y := x.value == y.value
  zero := ofValue zero
  one := ofValue one
  isNaN x := isNaN x.value
  sqrt := map sqrt
  exp := map exp
  abs x := ofValue (abs x.value)
  sin := map sin
  cos := map cos

end Wide

namespace Single

def ofBits (word : UInt32) : Single :=
  let x := Float32.ofBits word
  ⟨x, x.isNaN && word >>> 31 == 1⟩

/-- The word of a number. Not-a-number is written as the quiet one of its sign. -/
def toBits (x : Single) : UInt32 :=
  if x.value.isNaN && x.nanIsNegative then x.value.toBits ||| 0x80000000 else x.value.toBits

end Single

namespace Double

def ofBits (word : UInt64) : Double :=
  let x := Float.ofBits word
  ⟨x, x.isNaN && word >>> 63 == 1⟩

/-- The word of a number. Not-a-number is written as the quiet one of its sign. -/
def toBits (x : Double) : UInt64 :=
  if x.value.isNaN && x.nanIsNegative then x.value.toBits ||| 0x8000000000000000
  else x.value.toBits

def toSingle (x : Double) : Single :=
  ⟨x.value.toFloat32, x.nanIsNegative⟩

end Double

def Single.toDouble (x : Single) : Double :=
  ⟨x.value.toFloat, x.nanIsNegative⟩

end Strided.Binary
