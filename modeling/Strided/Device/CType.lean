import Strided.DType

/-! How device code names element types, and the headers that some of them need. -/

set_option autoImplicit false

namespace Strided

/-- A header that declares element types to a device compiler. -/
inductive Header where
  | complex
  | half
  | bfloat
  deriving DecidableEq, Repr

def Header.text : Header → String
  | complex => "#include <cuda/std/complex>"
  | half => "#include \"cuda_fp16.h\""
  | bfloat => "#include \"cuda_bf16.h\""

namespace DType

def cName : DType → String
  | u8 => "uint8_t"
  | u32 => "uint32_t"
  | i32 => "int"
  | i64 => "int64_t"
  | f32 => "float"
  | f64 => "double"
  | c32 => "cuda::std::complex<float>"
  | c64 => "cuda::std::complex<double>"
  | f16 => "__half"
  | bf16 => "__nv_bfloat16"

def header : DType → Option Header
  | c32 | c64 => some .complex
  | f16 => some .half
  | bf16 => some .bfloat
  | _ => none

end DType

/-- A type that device code names: an element type, or one of those that indices and argument
words have. -/
inductive CType where
  | elem (t : DType)
  | sizeT
  | longLong
  | double
  deriving DecidableEq, Repr

def CType.text : CType → String
  | elem t => t.cName
  | sizeT => "size_t"
  | longLong => "long long"
  | double => "double"

end Strided
