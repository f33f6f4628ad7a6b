import Strided.Numerics

/-! Arithmetic and elementary functions on elements.

Whole numbers wrap around, and divided by zero they give zero. Their elementary functions are
those of double precision, cut off toward zero and held within the range of the type.
-/

set_option autoImplicit false

namespace Strided

inductive BinaryOp where
  | add
  | sub
  | mul
  | div
  deriving DecidableEq, Repr

inductive UnaryOp where
  | neg
  | sqrt
  | exp
  | abs
  | sin
  | cos
  deriving DecidableEq, Repr

def BinaryOp.name : BinaryOp → String
  | add => "add"
  | sub => "sub"
  | mul => "mul"
  | div => "div"

def BinaryOp.ofName? (name : String) : Option BinaryOp :=
  [add, sub, mul, div].find? (·.name = name)

def UnaryOp.name : UnaryOp → String
  | neg => "neg"
  | sqrt => "sqrt"
  | exp => "exp"
  | abs => "abs"
  | sin => "sin"
  | cos => "cos"

def UnaryOp.ofName? (name : String) : Option UnaryOp :=
  [neg, sqrt, exp, abs, sin, cos].find? (·.name = name)

class Arithmetic (α : Type) where
  add : α → α → α
  sub : α → α → α
  mul : α → α → α
  div : α → α → α
  neg : α → α
  sqrt : α → α
  exp : α → α
  abs : α → α
  sin : α → α
  cos : α → α

namespace Arithmetic

variable {α : Type}

/-- The operations on fixed-width whole numbers, given the functions that tell one such type from
another. -/
abbrev ofWords [Add α] [Sub α] [Mul α] [Div α] [Neg α] (abs : α → α) (widen : α → Float)
    (narrow : Float → α) : Arithmetic α where
  add := (· + ·)
  sub := (· - ·)
  mul := (· * ·)
  div := (· / ·)
  neg := (- ·)
  abs := abs
  sqrt x := narrow (widen x).sqrt
  exp x := narrow (widen x).exp
  sin x := narrow (widen x).sin
  cos x := narrow (widen x).cos

instance : Arithmetic UInt8 := ofWords id UInt8.toFloat Float.toUInt8
instance : Arithmetic UInt32 := ofWords id UInt32.toFloat Float.toUInt32
instance : Arithmetic Int32 := ofWords Int32.abs Int32.toFloat Float.toInt32
instance : Arithmetic Int64 := ofWords Int64.abs Int64.toFloat Float.toInt64

end Arithmetic

namespace Arithmetic

abbrev ofReals {α : Type} [RealFunctions α] : Arithmetic α where
  add := (· + ·)
  sub := (· - ·)
  mul := (· * ·)
  div := (· / ·)
  neg := (- ·)
  sqrt := RealFunctions.sqrt
  exp := RealFunctions.exp
  abs := RealFunctions.abs
  sin := RealFunctions.sin
  cos := RealFunctions.cos

instance : Arithmetic Binary.Single := ofReals
instance : Arithmetic Binary.Double := ofReals

instance {α : Type} [RealFunctions α] [ComplexFunctions α] : Arithmetic (Complex α) where
  add := ComplexFunctions.add
  sub := ComplexFunctions.sub
  mul := ComplexFunctions.mul
  div := ComplexFunctions.div
  neg := ComplexFunctions.neg
  sqrt := ComplexFunctions.sqrt
  exp := ComplexFunctions.exp
  abs x := ⟨ComplexFunctions.norm x, RealFunctions.zero⟩
  sin := ComplexFunctions.sin
  cos := ComplexFunctions.cos

open SmallFunctions in
/-- The elementary functions of a 16-bit number are those of single precision, rounded back. -/
instance {f : Binary.Format} [SmallFunctions f] : Arithmetic (Binary.Small f) where
  add := SmallFunctions.add
  sub := SmallFunctions.sub
  mul := SmallFunctions.mul
  div := SmallFunctions.div
  neg := SmallFunctions.neg
  sqrt x := ofSingle (RealFunctions.sqrt (toSingle x))
  exp x := ofSingle (RealFunctions.exp (toSingle x))
  abs x := ofSingle (RealFunctions.abs (toSingle x))
  sin x := ofSingle (RealFunctions.sin (toSingle x))
  cos x := ofSingle (RealFunctions.cos (toSingle x))

end Arithmetic

instance {α : Type} [ComplexFunctions α] : BEq (Complex α) where
  beq := ComplexFunctions.equal

instance {f : Binary.Format} [SmallFunctions f] : BEq (Binary.Small f) where
  beq := SmallFunctions.equal

variable [Numerics]

instance : (t : DType) → Arithmetic t.Elem
  | .u8 => inferInstanceAs (Arithmetic UInt8)
  | .u32 => inferInstanceAs (Arithmetic UInt32)
  | .i32 => inferInstanceAs (Arithmetic Int32)
  | .i64 => inferInstanceAs (Arithmetic Int64)
  | .f32 => inferInstanceAs (Arithmetic Binary.Single)
  | .f64 => inferInstanceAs (Arithmetic Binary.Double)
  | .c32 => inferInstanceAs (Arithmetic (Complex Binary.Single))
  | .c64 => inferInstanceAs (Arithmetic (Complex Binary.Double))
  | .f16 => inferInstanceAs (Arithmetic Binary.Half)
  | .bf16 => inferInstanceAs (Arithmetic Binary.BFloat)

/-- Equality of elements as numbers: not-a-number differs from itself, and the two zeros of the
machine's floating-point types are equal. -/
instance : (t : DType) → BEq t.Elem
  | .u8 => inferInstanceAs (BEq UInt8)
  | .u32 => inferInstanceAs (BEq UInt32)
  | .i32 => inferInstanceAs (BEq Int32)
  | .i64 => inferInstanceAs (BEq Int64)
  | .f32 => inferInstanceAs (BEq Binary.Single)
  | .f64 => inferInstanceAs (BEq Binary.Double)
  | .c32 => inferInstanceAs (BEq (Complex Binary.Single))
  | .c64 => inferInstanceAs (BEq (Complex Binary.Double))
  | .f16 => inferInstanceAs (BEq Binary.Half)
  | .bf16 => inferInstanceAs (BEq Binary.BFloat)

def BinaryOp.apply {α : Type} [Arithmetic α] : BinaryOp → α → α → α
  | add => Arithmetic.add
  | sub => Arithmetic.sub
  | mul => Arithmetic.mul
  | div => Arithmetic.div

def UnaryOp.apply {α : Type} [Arithmetic α] : UnaryOp → α → α
  | neg => Arithmetic.neg
  | sqrt => Arithmetic.sqrt
  | exp => Arithmetic.exp
  | abs => Arithmetic.abs
  | sin => Arithmetic.sin
  | cos => Arithmetic.cos

end Strided
