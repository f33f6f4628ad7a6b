import Strided.Launch

/-! Evaluating expressions into arrays.

Every check comes before the first element is written: first the shapes of the operands among
each other, then their spaces, then the shape of the whole against the destination.
-/

set_option autoImplicit false

namespace Strided

variable [Numerics]

variable {t : DType} {n : Nat}

namespace Span

/-- Evaluate an expression into the elements of a window. -/
def assign (c : ExecConfig) (target : Span t n) (e : Expr n t) (m : Memory) :
    Except Error Memory := do
  let s ← e.shape
  e.checkSpace target.space
  s.broadcastsTo target.shape
  return if target.size = 0 then m else launch c target (e.lower target.shape) m

/-- Combine every element of a window with the value of an expression. -/
def update (c : ExecConfig) (op : BinaryOp) (target : Span t n) (e : Expr n t) (m : Memory) :
    Except Error Memory :=
  target.assign c (.binary op (.leaf (.array (.window target))) e) m

def fill (c : ExecConfig) (target : Span t n) (v : t.Elem) (m : Memory) : Except Error Memory :=
  target.assign c (.leaf (.scalar v)) m

end Span

namespace Tensor

def full (c : ExecConfig) (space : Space) (s : Shape n) (v : t.Elem) (m : Memory) :
    Tensor t n × Memory :=
  let (x, m) := empty space s m
  (x, if x.size = 0 then m else launch c x.span (.leaf (.scalar v)) m)

/-- Give a shape to a tensor that has none of its own: one that was moved from, or one whose
extents are all 0 and that is assigned another shape. -/
def adopt (x : Tensor t n) (s : Shape n) (m : Memory) : Tensor t n × Memory :=
  if x.isMovedFrom || (x.isUnshaped && x.shape ≠ s) then x.resizeDiscard s m else (x, m)

/-- Evaluate an expression into a tensor. The result is followed by the tensor and the memory that
are left, whether or not the evaluation succeeded. -/
def assign (c : ExecConfig) (x : Tensor t n) (e : Expr n t) (m : Memory) :
    Except Error Unit × Tensor t n × Memory :=
  match e.shape, e.checkSpace x.space with
  | .error fault, _ => (.error fault, x, m)
  | .ok _, .error fault => (.error fault, x, m)
  | .ok s, .ok () =>
    let (x, m) := x.adopt s m
    match x.span.assign c e m with
    | .error fault => (.error fault, x, m)
    | .ok m => (.ok (), x, m)

/-- Combine every element of a tensor with the value of an expression. -/
def update (c : ExecConfig) (op : BinaryOp) (x : Tensor t n) (e : Expr n t) (m : Memory) :
    Except Error Memory := do
  let target ← x.view
  target.update c op e m

def fill (c : ExecConfig) (x : Tensor t n) (v : t.Elem) (m : Memory) : Except Error Memory := do
  let target ← x.view
  target.fill c v m

def ofExpr (c : ExecConfig) (space : Space) (e : Expr n t) (m : Memory) :
    Except Error (Tensor t n × Memory) :=
  let (x, m) := new space m
  match x.assign c e m with
  | (.ok (), x, m) => .ok (x, m)
  | (.error fault, _, _) => .error fault

end Tensor

namespace Operand

/-- Combine every element of an array with the value of an expression. -/
def update (c : ExecConfig) (op : BinaryOp) (target : Operand t n) (e : Expr n t) (m : Memory) :
    Except Error Memory :=
  match target with
  | tensor x => x.update c op e m
  | window s => s.update c op e m

end Operand

end Strided
