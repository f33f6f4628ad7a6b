import Strided.Device.IndexCode
import Strided.Expr

/-! Rendering kernels as device code.

Buffers and scalars both travel as 64-bit arguments. The text of a kernel therefore depends on
the structure of its terms only, and one compiled kernel serves every buffer and scalar.
-/

set_option autoImplicit false

namespace Strided

/-- A parameter of a kernel. Buffers are declared with the type of their elements. -/
inductive Parameter where
  | pointer (t : DType) (x : CName)
  | word (x : CName)
  deriving DecidableEq, Repr

namespace Parameter

def name : Parameter → CName
  | pointer _ x | word x => x

def text : Parameter → String
  | pointer t x => t.cName ++ "* " ++ x.text
  | word x => "long long " ++ x.text

end Parameter

/-- What a parameter stands for when the kernel is started. -/
inductive Argument where
  | address (t : DType) (a : Address)
  | word (w : UInt64)
  deriving DecidableEq, Repr

/-- The word that is passed, given the words at which allocated buffers begin. -/
def Argument.toWord (home : Nat → UInt64) : Argument → UInt64
  | address t a => a.word home t
  | word w => w

/-- What rendering has collected: parameters and arguments in order, how many parameters there are
of each kind, and the headers that are needed, each one once. -/
structure KernelSource where
  parameters : List Parameter
  arguments : List Argument
  pointerCount : Nat
  scalarCount : Nat
  headers : List Header
  deriving DecidableEq, Repr

namespace KernelSource

def empty : KernelSource :=
  ⟨[], [], 0, 0, []⟩

def require (t : DType) (src : KernelSource) : KernelSource :=
  match t.header with
  | some h => if h ∈ src.headers then src else { src with headers := src.headers ++ [h] }
  | none => src

/-- Add a parameter for a buffer. The result is its name. -/
def pushPointer (t : DType) (a : Address) (src : KernelSource) : CExpr × KernelSource :=
  let x := CName.pointer src.pointerCount
  (.name x, KernelSource.require t
    { src with
      parameters := src.parameters ++ [.pointer t x]
      arguments := src.arguments ++ [.address t a]
      pointerCount := src.pointerCount + 1 })

/-- Add a parameter for a word. The result is its name. -/
def pushWord (w : UInt64) (src : KernelSource) : CExpr × KernelSource :=
  let x := CName.scalar src.scalarCount
  (.name x,
    { src with
      parameters := src.parameters ++ [.word x]
      arguments := src.arguments ++ [.word w]
      scalarCount := src.scalarCount + 1 })

/-- Add the parameters of a scalar. The result has the value and the type of the scalar. -/
def pushScalar [Numerics] (t : DType) (v : t.Elem) (src : KernelSource) : CExpr × KernelSource :=
  let (first, second) := kernelWords t v
  let (re, src) := (src.require t).pushWord first
  if t.isComplex then
    let (im, src) := src.pushWord second
    (.complex t (.call .wordAsDouble re) (.call .wordAsDouble im), src)
  else if t.isIntegral then (.staticCast (.elem t) re, src)
  else (.staticCast (.elem t) (.call .wordAsDouble re), src)

/-- One term of an offset: an index variable times its stride. -/
def offsetTerm (dim : Nat) (stride : Int) : CExpr :=
  .binary .mul (.leadingCast .longLong (.name (.index dim))) (.literal stride .longLong)

/-- The offset of the element at the index variables. Dimensions with stride 0 are left out. -/
def offset (strides : List Int) : CExpr :=
  .sum ((strides.zipIdx.filter (·.1 ≠ 0)).map fun (stride, dim) => offsetTerm dim stride)

end KernelSource

namespace BinaryOp

def operator : BinaryOp → COperator
  | add => .add
  | sub => .sub
  | mul => .mul
  | div => .div

/-- Two values of an element type combined. Whole numbers are brought back to their type, so that
narrow ones wrap, and the zero divisor is looked for first. -/
def render (t : DType) (op : BinaryOp) (l r : CExpr) : CExpr :=
  if t.isIntegral then
    match op with
    | div =>
      .paren (.conditional (.binary .equal r (.literal 0 .plain))
        (.staticCast (.elem t) (.literal 0 .plain))
        (.staticCast (.elem t) (.binary .div l r)))
    | op => .staticCast (.elem t) (.binary op.operator l r)
  else .paren (.binary op.operator l r)

end BinaryOp

namespace UnaryOp

def function : UnaryOp → Option CFunction
  | neg => none
  | sqrt => some .sqrt
  | exp => some .exp
  | abs => some .abs
  | sin => some .sin
  | cos => some .cos

/-- A function of a value of an element type. Real ones are computed in double precision. -/
def render (t : DType) (op : UnaryOp) (e : CExpr) : CExpr :=
  match op.function with
  | none => .paren (.negative e)
  | some f =>
    if t.isComplex then .convert t (.call f e)
    else .staticCast (.elem t) (.call f (.staticCast .double e))

end UnaryOp

def renderCast (s t : DType) (e : CExpr) : CExpr :=
  if s.isComplex then
    if t.isComplex then .complex t (.realPart (.paren e)) (.imaginaryPart (.paren e))
    else .staticCast (.elem t) (.realPart (.paren e))
  else .staticCast (.elem t) e

namespace Source

variable {n : Nat} {t : DType}

def emit [Numerics] (a : Source n t) (src : KernelSource) : CExpr × KernelSource :=
  match a with
  | window s =>
    let (array, src) := src.pushPointer t s.start
    (.subscript array (KernelSource.offset s.strides.toList), src)
  | scalar v => src.pushScalar t v

end Source

/-- The device code of a kernel's value at the index variables. Parameters are added from left to
right. -/
def Term.emit [Numerics] {n : Nat} {t : DType} (k : Kernel n t) (src : KernelSource) :
    CExpr × KernelSource :=
  match k with
  | .leaf a => a.emit src
  | .binary op l r =>
    let (l, src) := Term.emit l src
    let (r, src) := Term.emit r src
    (op.render t l r, src)
  | .unary op e =>
    let (e, src) := Term.emit e src
    (op.render t e, src)
  | @Term.cast _ s t e =>
    let (e, src) := Term.emit e (src.require t)
    (renderCast s t e, src)

namespace KernelSource

def declarations (src : KernelSource) : List String :=
  src.parameters.map Parameter.text

/-- The words of the arguments, in the order of the parameters. -/
def args (home : Nat → UInt64) (src : KernelSource) : List UInt64 :=
  src.arguments.map (Argument.toWord home)

variable {n : Nat}

def placeholder : String :=
  "__KERNEL_NAME__"

def template (src : KernelSource) (p : LaunchPlan n) (body : String) : String :=
  "\ntypedef unsigned char uint8_t;\ntypedef unsigned int uint32_t;\n" ++
    "typedef long long int int64_t;\n" ++
    String.intercalate "\n" (src.headers.map Header.text) ++ "\n\nextern \"C\" __global__ void " ++
    placeholder ++ "(" ++ Text.commaSeparated src.declarations ++ ") \x7b\n" ++
    p.indexCode.text body ++ "\n\x7d\n"

/-- The name of a kernel, by a digest of the rest of its text: equal texts share a name. -/
def kernelName (digest : String → UInt64) (src : KernelSource) (p : LaunchPlan n)
    (body : String) : String :=
  "assign_" ++ Text.hexPadded 16 (digest (src.template p body)).toNat

/-- The text of a kernel under its name, which takes the place of every placeholder, also of those
in the body. -/
def render (digest : String → UInt64) (src : KernelSource) (p : LaunchPlan n) (body : String) :
    String :=
  (src.template p body).replace placeholder (src.kernelName digest p body)

end KernelSource

end Strided
