/-! The functions of real approximations, and the machine's numbers as such approximations. -/

set_option autoImplicit false

namespace Strided

class RealFunctions (α : Type) extends Add α, Sub α, Mul α, Div α, Neg α, BEq α where
  zero : α
  one : α
  isNaN : α → Bool
  sqrt : α → α
  exp : α → α
  abs : α → α
  sin : α → α
  cos : α → α

instance : RealFunctions Float where
  zero := 0
  one := 1
  isNaN := Float.isNaN
  sqrt := Float.sqrt
  exp := Float.exp
  abs := Float.abs
  sin := Float.sin
  cos := Float.cos

instance : RealFunctions Float32 where
  zero := 0
  one := 1
  isNaN := Float32.isNaN
  sqrt := Float32.sqrt
  exp := Float32.exp
  abs := Float32.abs
  sin := Float32.sin
  cos := Float32.cos

end Strided
