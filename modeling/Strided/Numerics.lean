import Strided.DType

/-! The numbers whose arithmetic comes from outside.

Complex numbers and 16-bit numbers are not the machine's own, and what is done with them is a
parameter of everything that computes with elements. No law is asked of it, so whatever is said
about arrays holds for any such arithmetic.
-/

set_option autoImplicit false

namespace Strided

class ComplexFunctions (α : Type) where
  add : Complex α → Complex α → Complex α
  sub : Complex α → Complex α → Complex α
  mul : Complex α → Complex α → Complex α
  div : Complex α → Complex α → Complex α
  neg : Complex α → Complex α
  sqrt : Complex α → Complex α
  exp : Complex α → Complex α
  sin : Complex α → Complex α
  cos : Complex α → Complex α
  norm : Complex α → α
  equal : Complex α → Complex α → Bool

class SmallFunctions (f : Binary.Format) where
  toSingle : Binary.Small f → Binary.Single
  toDouble : Binary.Small f → Binary.Double
  ofSingle : Binary.Single → Binary.Small f
  ofDouble : Binary.Double → Binary.Small f
  add : Binary.Small f → Binary.Small f → Binary.Small f
  sub : Binary.Small f → Binary.Small f → Binary.Small f
  mul : Binary.Small f → Binary.Small f → Binary.Small f
  div : Binary.Small f → Binary.Small f → Binary.Small f
  neg : Binary.Small f → Binary.Small f
  equal : Binary.Small f → Binary.Small f → Bool

class Numerics where
  complexSingle : ComplexFunctions Binary.Single
  complexDouble : ComplexFunctions Binary.Double
  half : SmallFunctions .half
  bfloat : SmallFunctions .bfloat

namespace Numerics

attribute [reducible, instance] complexSingle complexDouble half bfloat

end Numerics

end Strided
