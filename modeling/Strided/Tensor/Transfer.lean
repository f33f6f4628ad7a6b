import Strided.Tensor.Assign

/-! Moving whole arrays: copies of any layout between any two spaces, and comparison.

Dense arrays are moved as one run of cells. Others are moved by a launch in their own space, and
between spaces they pass through dense temporaries.
-/

set_option autoImplicit false

namespace Strided

variable [Numerics]

variable {t : DType} {n : Nat}

namespace Tensor

/-- A dense copy of a window, in the same space. -/
def ofSpan (c : ExecConfig) (s : Span t n) (m : Memory) : Tensor t n × Memory :=
  let (x, m) := empty s.space s.shape m
  if x.size = 0 then (x, m)
  else if s.isContiguous then (x, m.copy t s.start x.storage.start x.size)
  else (x, launch c x.span (.leaf (.window s)) m)

end Tensor

namespace Span

def toList (c : ExecConfig) (s : Span t n) (m : Memory) : List t.Elem :=
  if s.size = 0 then []
  else if s.isContiguous then m.readRun t s.start s.size
  else
    let (staged, m) := Tensor.ofSpan c s m
    m.readRun t staged.storage.start s.size

/-- Equal extents and equal elements, whatever the layouts and the spaces. -/
def equal {k : Nat} (c : ExecConfig) (a : Span t n) (b : Span t k) (m : Memory) : Bool :=
  a.shape.toList = b.shape.toList && a.toList c m == b.toList c m

/-- Copy the elements of a window to one of the same shape. -/
def transfer (c : ExecConfig) (source target : Span t n) (m : Memory) : Memory :=
  if source.isContiguous && target.isContiguous then
    m.copy t source.start target.start source.size
  else if source.space = target.space then launch c target (.leaf (.window source)) m
  else
    let (staged, m) := Tensor.ofSpan c source m
    if target.isContiguous then m.copy t staged.storage.start target.start source.size
    else
      let (landed, m) := Tensor.empty target.space target.shape m
      launch c target (.leaf (.window landed.span))
        (m.copy t staged.storage.start landed.storage.start source.size)

end Span

namespace Operand

/-- Copy every element of an array into another one of the same shape. -/
def copy (c : ExecConfig) (source target : Operand t n) (m : Memory) : Except Error Memory := do
  let origin ← source.view
  let into ← target.view
  if origin.shape = into.shape then
    return if origin.size = 0 then m else origin.transfer c into m
  else throw (.shapeMismatch into.shape.toList origin.shape.toList)

/-- Equality of arrays. A moved-from tensor equals nothing. -/
def equal {k : Nat} (c : ExecConfig) (a : Operand t n) (b : Operand t k) (m : Memory) : Bool :=
  match a.view, b.view with
  | .ok a, .ok b => a.equal c b m
  | _, _ => false

end Operand

namespace Tensor

def toList (c : ExecConfig) (x : Tensor t n) (m : Memory) : Except Error (List t.Elem) := do
  return (← x.view).toList c m

def toSpace (space : Space) (x : Tensor t n) (m : Memory) :
    Except Error (Tensor t n × Memory) := do
  x.ensureLive
  let (y, m) := empty space x.shape m
  return (y, m.copy t x.storage.start y.storage.start x.size)

end Tensor

/-- The elements in column-major order, which a moved-from tensor does not have. -/
def Operand.toList (c : ExecConfig) (a : Operand t n) (m : Memory) : Except Error (List t.Elem) :=
  match a with
  | tensor x => x.toList c m
  | window s => .ok (s.toList c m)

end Strided
