import Strided.Binary.Small
import Strided.Binary.Wide
import Strided.Complex

/-! Element types of arrays, and the values that each of them holds. -/

set_option autoImplicit false

namespace Strided

inductive DType where
  | u8
  | u32
  | i32
  | i64
  | f32
  | f64
  | c32
  | c64
  | f16
  | bf16
  deriving DecidableEq, Repr, Inhabited

namespace DType

def name : DType → String
  | u8 => "u8"
  | u32 => "u32"
  | i32 => "i32"
  | i64 => "i64"
  | f32 => "f32"
  | f64 => "f64"
  | c32 => "c32"
  | c64 => "c64"
  | f16 => "f16"
  | bf16 => "bf16"

def all : List DType :=
  [u8, u32, i32, i64, f32, f64, c32, c64, f16, bf16]

def ofName? (name : String) : Option DType :=
  all.find? (·.name = name)

def isIntegral : DType → Bool
  | u8 | u32 | i32 | i64 => true
  | _ => false

def isComplex : DType → Bool
  | c32 | c64 => true
  | _ => false

def bytes : DType → Nat
  | u8 => 1
  | f16 | bf16 => 2
  | u32 | i32 | f32 => 4
  | i64 | f64 | c32 => 8
  | c64 => 16

abbrev Elem : DType → Type
  | u8 => UInt8
  | u32 => UInt32
  | i32 => Int32
  | i64 => Int64
  | f32 => Binary.Single
  | f64 => Binary.Double
  | c32 => Complex Binary.Single
  | c64 => Complex Binary.Double
  | f16 => Binary.Half
  | bf16 => Binary.BFloat

def zero : (t : DType) → t.Elem
  | u8 => 0
  | u32 => 0
  | i32 => 0
  | i64 => 0
  | f32 | f64 => RealFunctions.zero
  | c32 | c64 => ⟨RealFunctions.zero, RealFunctions.zero⟩
  | f16 => .zero
  | bf16 => .zero

def one : (t : DType) → t.Elem
  | u8 => 1
  | u32 => 1
  | i32 => 1
  | i64 => 1
  | f32 | f64 => RealFunctions.one
  | c32 | c64 => ⟨RealFunctions.one, RealFunctions.zero⟩
  | f16 => .one
  | bf16 => .one

instance (t : DType) : Inhabited t.Elem := ⟨t.zero⟩

structure Family (F : DType → Type) where
  u8 : F .u8
  u32 : F .u32
  i32 : F .i32
  i64 : F .i64
  f32 : F .f32
  f64 : F .f64
  c32 : F .c32
  c64 : F .c64
  f16 : F .f16
  bf16 : F .bf16

namespace Family

variable {F : DType → Type}

def const (member : (t : DType) → F t) : Family F :=
  ⟨member _, member _, member _, member _, member _, member _, member _, member _, member _,
    member _⟩

def get (m : Family F) : (t : DType) → F t
  | .u8 => m.u8
  | .u32 => m.u32
  | .i32 => m.i32
  | .i64 => m.i64
  | .f32 => m.f32
  | .f64 => m.f64
  | .c32 => m.c32
  | .c64 => m.c64
  | .f16 => m.f16
  | .bf16 => m.bf16

def modify (m : Family F) : (t : DType) → (F t → F t) → Family F
  | .u8, f => { m with u8 := f m.u8 }
  | .u32, f => { m with u32 := f m.u32 }
  | .i32, f => { m with i32 := f m.i32 }
  | .i64, f => { m with i64 := f m.i64 }
  | .f32, f => { m with f32 := f m.f32 }
  | .f64, f => { m with f64 := f m.f64 }
  | .c32, f => { m with c32 := f m.c32 }
  | .c64, f => { m with c64 := f m.c64 }
  | .f16, f => { m with f16 := f m.f16 }
  | .bf16, f => { m with bf16 := f m.bf16 }

@[simp] theorem get_const (member : (t : DType) → F t) (t : DType) :
    (const member).get t = member t := by
  cases t <;> rfl

@[simp] theorem get_modify_self (m : Family F) (t : DType) (f : F t → F t) :
    (m.modify t f).get t = f (m.get t) := by
  cases t <;> rfl

theorem get_modify_of_ne (m : Family F) {t u : DType} (h : u ≠ t) (f : F t → F t) :
    (m.modify t f).get u = m.get u := by
  cases t <;> cases u <;> first | rfl | exact absurd rfl h

end Family

end DType

end Strided
