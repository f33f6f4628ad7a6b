import Strided.Numerics.Complex
import Strided.Numerics.Small

/-! The arithmetic that programs run with. -/

set_option autoImplicit false

namespace Strided

instance : Numerics where
  complexSingle := inferInstance
  complexDouble := inferInstance
  half := inferInstance
  bfloat := inferInstance

end Strided
