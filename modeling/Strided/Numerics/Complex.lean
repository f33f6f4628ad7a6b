import Strided.Numerics
import Strided.Numerics.PolarFunctions

/-! Functions of complex numbers.

The elementary functions go through polar coordinates, except on the axes and at infinities,
where the parts are known exactly.
-/

set_option autoImplicit false

namespace Strided

namespace Complex

variable {α : Type} [PolarFunctions α]

open RealFunctions PolarFunctions

def mul (a b : Complex α) : Complex α :=
  ⟨a.re * b.re - a.im * b.im, a.re * b.im + a.im * b.re⟩

def div (a b : Complex α) : Complex α :=
  let n := b.re * b.re + b.im * b.im
  ⟨(a.re * b.re + a.im * b.im) / n, (a.im * b.re - a.re * b.im) / n⟩

def ofPolar (r θ : α) : Complex α :=
  ⟨r * cos θ, r * sin θ⟩

/-- The root in the right half plane. On an axis it is found without an angle. -/
def sqrt (a : Complex α) : Complex α :=
  let signed (x : α) : α := if isNegative a.im then -x else x
  let two : α := one + one
  if a.im == zero then
    if isNegative a.re then ⟨zero, signed (RealFunctions.sqrt (-a.re))⟩
    else ⟨RealFunctions.sqrt a.re, a.im⟩
  else if a.re == zero then
    let x := RealFunctions.sqrt (abs a.im / two)
    ⟨x, signed x⟩
  else
    ofPolar (RealFunctions.sqrt (hypot a.re a.im)) (atan2 a.im a.re / two)

/-- The exponential. At infinite real parts the angle does not always matter. -/
def exp (a : Complex α) : Complex α :=
  let unbounded := isNaN a.im || isInfinite a.im
  if isInfinite a.re && isNegative a.re && unbounded then ⟨zero, zero⟩
  else if isInfinite a.re && !isNegative a.re && (a.im == zero || unbounded) then
    ⟨a.re, if isInfinite a.im then nan else a.im⟩
  else if isNaN a.re && a.im == zero then a
  else ofPolar (RealFunctions.exp a.re) a.im

end Complex

open RealFunctions PolarFunctions in
instance {α : Type} [PolarFunctions α] : ComplexFunctions α where
  add a b := ⟨a.re + b.re, a.im + b.im⟩
  sub a b := ⟨a.re - b.re, a.im - b.im⟩
  mul := Complex.mul
  div := Complex.div
  neg a := ⟨-a.re, -a.im⟩
  sqrt := Complex.sqrt
  exp := Complex.exp
  sin a := ⟨sin a.re * cosh a.im, cos a.re * sinh a.im⟩
  cos a := ⟨cos a.re * cosh a.im, -sin a.re * sinh a.im⟩
  norm a := hypot a.re a.im
  equal a b := a.re == b.re && a.im == b.im

end Strided
