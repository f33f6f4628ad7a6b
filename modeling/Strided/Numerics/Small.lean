import Strided.Numerics

/-! Functions of 16-bit numbers.

Arithmetic is done in single precision, which holds every such number exactly, and the outcome is
rounded back.
-/

set_option autoImplicit false

namespace Strided

namespace Binary.Small

variable {f : Format}

def toSingle (x : Small f) : Single :=
  .ofBits (.ofNat (f.convert .single x.word.toNat))

def ofSingle (x : Single) : Small f :=
  ⟨.ofNat (Format.single.convert f x.toBits.toNat)⟩

def ofDouble (x : Double) : Small f :=
  ⟨.ofNat (Format.double.convert f x.toBits.toNat)⟩

def map₂ (op : Single → Single → Single) (x y : Small f) : Small f :=
  ofSingle (op x.toSingle y.toSingle)

end Binary.Small

open Binary.Small in
/-- Equality is that of the numbers, not of the words: the two zeros are equal, and not-a-number
differs from itself. -/
instance {f : Binary.Format} : SmallFunctions f where
  toSingle := toSingle
  toDouble x := x.toSingle.toDouble
  ofSingle := ofSingle
  ofDouble := ofDouble
  add := map₂ (· + ·)
  sub := map₂ (· - ·)
  mul := map₂ (· * ·)
  div := map₂ (· / ·)
  neg x := ⟨x.word ^^^ 0x8000⟩
  equal x y := x.toSingle == y.toSingle

end Strided
