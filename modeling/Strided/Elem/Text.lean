import Strided.Decimal.Style
import Strided.Numerics
import Strided.Text.Listing

/-! Texts of elements. -/

set_option autoImplicit false

namespace Strided

/-- Whole numbers are written in decimal, and floating-point numbers as the shortest decimal that
reads back, 16-bit ones in single precision. -/
def DType.text [Numerics] : (t : DType) → t.Elem → String
  | u8, x => toString x.toNat
  | u32, x => toString x.toNat
  | i32, x => toString x.toInt
  | i64, x => toString x.toInt
  | f32, x => single x
  | f64, x => double x
  | c32, x => Text.record "Complex" [("re", single x.re), ("im", single x.im)]
  | c64, x => Text.record "Complex" [("re", double x.re), ("im", double x.im)]
  | f16, x => single (SmallFunctions.toSingle x)
  | bf16, x => single (SmallFunctions.toSingle x)
where
  single (x : Binary.Single) : String :=
    Decimal.Style.standard.text .single x.toBits.toNat
  double (x : Binary.Double) : String :=
    Decimal.Style.standard.text .double x.toBits.toNat

end Strided
