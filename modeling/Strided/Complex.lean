/-! Complex numbers by their parts. -/

set_option autoImplicit false

namespace Strided

structure Complex (α : Type) where
  re : α
  im : α
  deriving Repr

end Strided
