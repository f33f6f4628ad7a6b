import Strided.Span
import Strided.Storage

/-! Tensors: arrays that own their elements, densely in column-major order.

A tensor whose buffer was taken is moved-from. It can be given a new shape or new elements, and
until then reading it is an error. `Tensor.Calculation` has the operations with sizes on words.
-/

set_option autoImplicit false

namespace Strided

variable {t : DType} {n : Nat}

structure Tensor (t : DType) (n : Nat) where
  layout : Layout n
  storage : Storage t
  deriving DecidableEq

namespace Tensor

def shape (x : Tensor t n) : Shape n :=
  x.layout.shape

def strides (x : Tensor t n) : Strides n :=
  x.layout.strides

def size (x : Tensor t n) : Nat :=
  x.layout.size

def space (x : Tensor t n) : Space :=
  x.storage.space

def capacity (x : Tensor t n) : Nat :=
  x.storage.capacity

def isMovedFrom (x : Tensor t n) : Bool :=
  x.storage.released

/-- A window on all elements, whether or not there are any. -/
def span (x : Tensor t n) : Span t n :=
  ⟨x.space, x.storage.start, x.layout⟩

def ensureLive (x : Tensor t n) : Except Error Unit :=
  if x.isMovedFrom then .error (.movedFrom .tensor) else .ok ()

def view (x : Tensor t n) : Except Error (Span t n) := do
  x.ensureLive
  return x.span

/-- Every extent is 0, as in a new tensor. A tensor of rank 0 always has a shape. -/
def isUnshaped (x : Tensor t n) : Bool :=
  n ≠ 0 && x.shape = .zeros

def empty (space : Space) (s : Shape n) (m : Memory) : Tensor t n × Memory :=
  let (storage, m) := Storage.new space s.size m
  (⟨.contiguous s, storage⟩, m)

/-- A tensor without a shape, which takes the shape of what it is assigned. -/
def new (space : Space) (m : Memory) : Tensor t n × Memory :=
  empty space .zeros m

/-- A tensor with the given elements in column-major order. -/
def ofList (space : Space) (s : Shape n) (data : List t.Elem) (m : Memory) :
    Except Error (Tensor t n × Memory) :=
  if s.size = data.length then
    let (storage, m) := Storage.ofList space data m
    .ok (⟨.contiguous s, storage⟩, m)
  else .error (.sizeMismatch s.size data.length)

/-- Take a new shape; the elements at the beginning of the buffer stay. -/
def resize (s : Shape n) (x : Tensor t n) (m : Memory) : Tensor t n × Memory :=
  let (storage, m) := x.storage.resize s.size m
  (⟨.contiguous s, storage⟩, m)

/-- Take a new shape; elements are then unspecified. -/
def resizeDiscard (s : Shape n) (x : Tensor t n) (m : Memory) : Tensor t n × Memory :=
  let (storage, m) := x.storage.resizeDiscard s.size m
  (⟨.contiguous s, storage⟩, m)

/-- Hand the buffer over: the tensor that now owns it, and the one that is left moved-from. -/
def take (x : Tensor t n) : Tensor t n × Tensor t n :=
  let (taken, left) := x.storage.take
  (⟨x.layout, taken⟩, ⟨.unshaped, left⟩)

def clone (x : Tensor t n) (m : Memory) : Tensor t n × Memory :=
  let (storage, m) := x.storage.clone m
  (⟨x.layout, storage⟩, m)

/-- Become a copy of the source, in the buffer at hand if it is large enough. -/
def cloneFrom (x source : Tensor t n) (m : Memory) : Tensor t n × Memory :=
  let (storage, m) := x.storage.cloneFrom source.storage m
  (⟨source.layout, storage⟩, m)

end Tensor

end Strided
