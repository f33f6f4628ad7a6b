import Strided.Numerics

/-! Conversion between element types.

An element is read as a real and an imaginary part, each a whole number or a floating-point
number, and the parts are put into the other type. Whole numbers wrap into a narrower range.
Floating-point numbers are cut off toward zero and held within the range, not-a-number giving
zero. The imaginary part is lost where the other type has none.
-/

set_option autoImplicit false

namespace Strided

inductive Part where
  | whole (number : Int)
  | single (number : Binary.Single)
  | double (number : Binary.Double)

namespace Part

/-- A whole number wraps; one that fits 64 bits with a sign is kept. -/
def toUInt8 : Part → UInt8
  | whole k => .ofInt k
  | single x => x.value.toUInt8
  | double x => x.value.toUInt8

def toUInt32 : Part → UInt32
  | whole k => .ofInt k
  | single x => x.value.toUInt32
  | double x => x.value.toUInt32

def toInt32 : Part → Int32
  | whole k => .ofInt k
  | single x => x.value.toInt32
  | double x => x.value.toInt32

def toInt64 : Part → Int64
  | whole k => .ofInt k
  | single x => x.value.toInt64
  | double x => x.value.toInt64

def toSingle : Part → Binary.Single
  | whole k => .ofValue (Int64.ofInt k).toFloat32
  | single x => x
  | double x => x.toSingle

def toDouble : Part → Binary.Double
  | whole k => .ofValue (Int64.ofInt k).toFloat
  | single x => x.toDouble
  | double x => x

/-- A 16-bit number is made from one in double precision. -/
def toSmall (f : Binary.Format) [SmallFunctions f] (p : Part) : Binary.Small f :=
  SmallFunctions.ofDouble p.toDouble

end Part

variable [Numerics]

open SmallFunctions

namespace DType

/-- The real and the imaginary part of an element. -/
def parts : (t : DType) → t.Elem → Part × Part
  | u8, x => (.whole x.toNat, .whole 0)
  | u32, x => (.whole x.toNat, .whole 0)
  | i32, x => (.whole x.toInt, .whole 0)
  | i64, x => (.whole x.toInt, .whole 0)
  | f32, x => (.single x, .whole 0)
  | f64, x => (.double x, .whole 0)
  | c32, x => (.single x.re, .single x.im)
  | c64, x => (.double x.re, .double x.im)
  | f16, x => (.double (toDouble x), .whole 0)
  | bf16, x => (.double (toDouble x), .whole 0)

def ofParts : (t : DType) → Part × Part → t.Elem
  | u8, (re, _) => re.toUInt8
  | u32, (re, _) => re.toUInt32
  | i32, (re, _) => re.toInt32
  | i64, (re, _) => re.toInt64
  | f32, (re, _) => re.toSingle
  | f64, (re, _) => re.toDouble
  | c32, (re, im) => ⟨re.toSingle, im.toSingle⟩
  | c64, (re, im) => ⟨re.toDouble, im.toDouble⟩
  | f16, (re, _) => re.toSmall .half
  | bf16, (re, _) => re.toSmall .bfloat

end DType

/-- Between 16-bit numbers, and between them and complex ones in single precision, the way leads
through single precision. -/
def castElem : (s t : DType) → s.Elem → t.Elem
  | .f16, .f16, x => x
  | .bf16, .bf16, x => x
  | .f16, .bf16, x => ofSingle (toSingle x)
  | .bf16, .f16, x => ofSingle (toSingle x)
  | .f16, .c32, x => ⟨toSingle x, RealFunctions.zero⟩
  | .bf16, .c32, x => ⟨toSingle x, RealFunctions.zero⟩
  | .c32, .f16, x => ofSingle x.re
  | .c32, .bf16, x => ofSingle x.re
  | s, t, x => t.ofParts (s.parts x)

/-- An element as the words that a kernel takes as arguments. Whole numbers are extended to 64
bits by their sign, anything else passes the parts in double precision. Only complex types use
the second word. -/
def kernelWords (t : DType) (x : t.Elem) : UInt64 × UInt64 :=
  match t.parts x with
  | (.whole k, _) => (.ofInt k, 0)
  | (re, im) => (re.toDouble.toBits, im.toDouble.toBits)

end Strided
