import Strided.Elem.Arithmetic
import Strided.Memory
import Strided.Slice
import Strided.Space

/-! Spans: strided windows into memory.

A span owns nothing. It is the form in which arrays are read and written, and a window of a
window is a span again.
-/

set_option autoImplicit false

namespace Strided

variable {t : DType} {n : Nat}

structure Span (t : DType) (n : Nat) where
  space : Space
  start : Address
  layout : Layout n
  deriving DecidableEq

namespace Span

def adapt (space : Space) (start : Address) (s : Shape n) : Span t n :=
  ⟨space, start, .contiguous s⟩

def shape (s : Span t n) : Shape n :=
  s.layout.shape

def strides (s : Span t n) : Strides n :=
  s.layout.strides

def size (s : Span t n) : Nat :=
  s.layout.size

def isContiguous (s : Span t n) : Bool :=
  s.layout.isContiguous

def cell (s : Span t n) (i : Index n) : Address :=
  s.start.shift (s.layout.offset i)

def read (s : Span t n) (m : Memory) (i : Index n) : t.Elem :=
  m.read t (s.cell i)

def write (s : Span t n) (m : Memory) (i : Index n) (v : t.Elem) : Memory :=
  m.write t (s.cell i) v

def slice (s : Span t n) (entries : List Slice) (m : Nat) : Except Error (Span t m) := do
  let (layout, distance) ← s.layout.slice entries m
  return ⟨s.space, s.start.shift distance, layout⟩

def broadcastTo (s : Span t n) (target : Shape n) : Span t n :=
  { s with layout := s.layout.broadcastTo target }

/-- The texts of a span under a name, its address first if it is to be shown. -/
def debug (home : Nat → UInt64) (s : Span t n) : String :=
  Text.record "TensorSpan" [("space", s.space.label),
    ("ptr", "0x" ++ .ofList (Text.hexDigits (s.start.word home t).toNat)),
    ("shape", s.shape.debug), ("strides", s.strides.debug)]

/-- The text of a span that is shown as a view of a tensor, under a name for the kind of view. -/
def debugAs (name : String) (s : Span t n) : String :=
  Text.record name [("space", s.space.label), ("shape", s.shape.debug),
    ("strides", s.strides.debug)]

end Span

structure AnySpan (t : DType) where
  {rank : Nat}
  span : Span t rank

/-- One step of a chain of slices: the entries, and the rank that is to be left. -/
structure SliceStep where
  entries : List Slice
  rank : Nat
  deriving DecidableEq, Repr

def AnySpan.sliceAll (s : AnySpan t) : List SliceStep → Except Error (AnySpan t)
  | [] => .ok s
  | step :: rest => do
    let next ← s.span.slice step.entries step.rank
    AnySpan.sliceAll ⟨next⟩ rest

end Strided
