import Strided.Binary.Hypotenuse
import Strided.Binary.Wide

/-! The functions of real approximations that complex ones are built from. -/

set_option autoImplicit false

namespace Strided

class PolarFunctions (α : Type) extends RealFunctions α where
  nan : α
  isInfinite : α → Bool
  /-- The sign bit is set. -/
  isNegative : α → Bool
  sinh : α → α
  cosh : α → α
  hypot : α → α → α
  atan2 : α → α → α

def hypot64 (x y : Float) : Float :=
  let read (x : Float) := Binary.Format.double.decode x.toBits.toNat
  .ofBits (.ofNat (Binary.Format.double.encode (Binary.hypotenuse (read x) (read y))))

def hypot32 (x y : Float32) : Float32 :=
  let read (x : Float32) := Binary.Format.single.decode x.toBits.toNat
  .ofBits (.ofNat (Binary.Format.single.encode (Binary.hypotenuse (read x) (read y))))

instance : PolarFunctions Float where
  nan := 0 / 0
  isInfinite := Float.isInf
  isNegative x := x.toBits >>> 63 == 1
  sinh := Float.sinh
  cosh := Float.cosh
  hypot := hypot64
  atan2 := Float.atan2

instance : PolarFunctions Float32 where
  nan := 0 / 0
  isInfinite := Float32.isInf
  isNegative x := x.toBits >>> 31 == 1
  sinh := Float32.sinh
  cosh := Float32.cosh
  hypot := hypot32
  atan2 := Float32.atan2

open PolarFunctions in
instance {α : Type} [PolarFunctions α] : PolarFunctions (Binary.Wide α) where
  nan := .ofValue nan
  isInfinite x := isInfinite x.value
  isNegative x := x.nanSign?.getD (isNegative x.value)
  sinh := .map sinh
  cosh := .map cosh
  hypot := .map₂ hypot
  atan2 := .map₂ atan2

end Strided
