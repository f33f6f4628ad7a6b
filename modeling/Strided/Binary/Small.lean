import Strided.Binary.Format

/-! Floating-point numbers of 16 bits, each kept as its word. -/

set_option autoImplicit false

namespace Strided.Binary

structure Small (f : Format) where
  word : UInt16
  deriving Repr

abbrev Half := Small .half
abbrev BFloat := Small .bfloat

namespace Small

variable {f : Format}

def zero : Small f :=
  ⟨0⟩

/-- The exponent of one is the bias, and its fraction is empty. -/
def one : Small f :=
  ⟨.ofNat ((Nat.pow 2 (f.exponentBits - 1) - 1) * Nat.pow 2 f.fractionBits)⟩

end Small

end Strided.Binary
