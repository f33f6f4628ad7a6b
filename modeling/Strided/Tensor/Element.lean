import Strided.Elem.Text
import Strided.Tensor

/-! Single elements of arrays, by index, and the text of a tensor. -/

set_option autoImplicit false

namespace Strided

variable {t : DType} {n : Nat}

structure OutOfBounds where
  index : List Nat
  extents : List Nat
  deriving DecidableEq, Repr

def OutOfBounds.message (b : OutOfBounds) : String :=
  "index " ++ Text.bracketed (b.index.map toString) ++ " out of bounds for shape " ++
    Text.parenthesised (b.extents.map toString)

namespace Span

/-- The cell of the element at an index that may lie outside. -/
def cell? (s : Span t n) (i : Index n) : Except OutOfBounds Address :=
  if s.shape.Contains i then .ok (s.cell i) else .error ⟨i.toList, s.shape.toList⟩

def get? (s : Span t n) (i : Index n) (m : Memory) : Except OutOfBounds t.Elem := do
  return m.read t (← s.cell? i)

def set? (s : Span t n) (i : Index n) (v : t.Elem) (m : Memory) : Except OutOfBounds Memory := do
  return m.write t (← s.cell? i) v

end Span

namespace Tensor

/-- The elements of the buffer, as many as the shape calls for. -/
def cells (x : Tensor t n) (m : Memory) : List t.Elem :=
  m.readRun t x.storage.start x.size

/-- The elements are left out where the buffer is gone or lies outside host memory. -/
def debug [Numerics] (x : Tensor t n) (m : Memory) : String :=
  let data := if x.space.inHostMemory && !x.isMovedFrom then
      [("data", Text.bracketed ((x.storage.toList m).map t.text))]
    else []
  Text.record "Tensor" ([("space", x.space.label), ("dtype", Text.quoted t.name),
    ("shape", x.shape.debug)] ++ data)

end Tensor

end Strided
