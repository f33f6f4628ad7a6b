import Strided.Tensor
import Strided.Term

/-! Expressions: elementwise terms over arrays and scalars.

An expression has the shape to which the shapes of its operands broadcast. Lowered to a shape, it
is a kernel: a term over windows of that very shape, which can be evaluated at every index.
-/

set_option autoImplicit false

namespace Strided

variable {t : DType} {n : Nat}

/-- An array as operations take it: a whole tensor, or a window on elements. -/
inductive Operand (t : DType) (n : Nat) where
  | tensor (x : Tensor t n)
  | window (s : Span t n)

namespace Operand

/-- The elements of the array, which a moved-from tensor does not have. -/
def view : Operand t n → Except Error (Span t n)
  | tensor x => x.view
  | window s => .ok s

/-- The window behind the array, without a look at whether it has elements. -/
def span : Operand t n → Span t n
  | tensor x => x.span
  | window s => s

/-- A window on the elements that a request selects, which a moved-from tensor does not have. -/
def slice (a : Operand t n) (entries : List Slice) (k : Nat) : Except Error (Span t k) := do
  (← a.view).slice entries k

end Operand

inductive Leaf (n : Nat) (t : DType) where
  | array (a : Operand t n)
  | scalar (v : t.Elem)

inductive Source (n : Nat) (t : DType) where
  | window (s : Span t n)
  | scalar (v : t.Elem)

abbrev Expr (n : Nat) (t : DType) := Term (Leaf n) t

abbrev Kernel (n : Nat) (t : DType) := Term (Source n) t

namespace Leaf

/-- A scalar has extent 1 everywhere and so stretches to any shape. -/
def shape : Leaf n t → Except Error (Shape n)
  | array a => return (← a.view).shape
  | scalar _ => .ok .ones

def checkSpace (space : Space) : Leaf n t → Except Error Unit
  | array a =>
    if a.span.space = space then .ok () else .error (.spaceMismatch space a.span.space)
  | scalar _ => .ok ()

def lower (target : Shape n) : Leaf n t → Source n t
  | array a => .window (a.span.broadcastTo target)
  | scalar v => .scalar v

/-- A scalar stays as it is. -/
def slice (entries : List Slice) (k : Nat) : Leaf n t → Except Error (Leaf k t)
  | array a => return .array (.window (← a.slice entries k))
  | scalar v => .ok (.scalar v)

end Leaf

/-- The element that a leaf of a kernel contributes at an index. -/
def Source.valueAt (m : Memory) (i : Index n) : Source n t → t.Elem
  | window s => s.read m i
  | scalar v => v

namespace Term

/-- The shape to which the operands of an expression broadcast. -/
def shape {t : DType} : Expr n t → Except Error (Shape n)
  | leaf a => a.shape
  | binary _ l r => do
    let s ← l.shape
    let u ← r.shape
    s.broadcast u
  | unary _ e => e.shape
  | cast _ e => e.shape

/-- Refuse the first operand outside the space of evaluation. -/
def checkSpace (space : Space) (e : Expr n t) : Except Error Unit :=
  e.leaves.forM fun ⟨_, a⟩ => a.checkSpace space

/-- The kernel of an expression over a shape to which it broadcasts. -/
def lower (target : Shape n) (e : Expr n t) : Kernel n t :=
  e.map (Leaf.lower target)

def slice (e : Expr n t) (entries : List Slice) (k : Nat) : Except Error (Expr k t) :=
  e.traverse (Leaf.slice entries k)

def valueAt [Numerics] (m : Memory) (i : Index n) (k : Kernel n t) : t.Elem :=
  k.eval (Source.valueAt m i)

end Term

end Strided
