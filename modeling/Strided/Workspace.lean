import Strided.Tensor.Element
import Strided.Tensor.Literal
import Strided.Tensor.Transfer

/-! Named tensors over one memory.

A workspace gives names to tensors of any element type and rank. Expressions and commands refer to
tensors by name, and resolving a name yields the tensor only at the type at which it is used.
-/

set_option autoImplicit false

namespace Strided

structure AnyTensor where
  {dtype : DType}
  {rank : Nat}
  tensor : Tensor dtype rank

inductive Failure where
  | error (e : Error)
  | outOfBounds (b : OutOfBounds)
  | unknownName (name : String)
  /-- The tensor has another element type or rank than the command is for. -/
  | otherType (name : String)
  deriving DecidableEq, Repr

structure Workspace where
  memory : Memory
  tensor? : String → Option AnyTensor

inductive Reference (n : Nat) (t : DType) where
  | scalar (v : t.Elem)
  | tensor (name : String)
  /-- A window on a tensor, sliced. -/
  | view (name : String) (slices : List SliceStep)
  /-- A dense copy of a window on a tensor. -/
  | copied (name : String) (slices : List SliceStep)

namespace Workspace

variable {t : DType} {n : Nat}

def empty : Workspace :=
  ⟨.empty, fun _ => none⟩

def put (w : Workspace) (name : String) (x : Tensor t n) : Workspace :=
  { w with tensor? := fun k => if k = name then some ⟨x⟩ else w.tensor? k }

def erase (w : Workspace) (name : String) : Workspace :=
  { w with tensor? := fun k => if k = name then none else w.tensor? k }

@[simp] theorem tensor?_put (w : Workspace) (name k : String) (x : Tensor t n) :
    (w.put name x).tensor? k = if k = name then some ⟨x⟩ else w.tensor? k := rfl

@[simp] theorem memory_put (w : Workspace) (name : String) (x : Tensor t n) :
    (w.put name x).memory = w.memory := rfl

def find (w : Workspace) (name : String) : Except Failure AnyTensor :=
  match w.tensor? name with
  | some x => .ok x
  | none => .error (.unknownName name)

def tensor (w : Workspace) (t : DType) (n : Nat) (name : String) : Except Failure (Tensor t n) := do
  let x ← w.find name
  if h : x.dtype = t ∧ x.rank = n then return h.1 ▸ h.2 ▸ x.tensor else throw (.otherType name)

/-- A window on the tensor of a name, at an element type. -/
def window (w : Workspace) (t : DType) (name : String) (slices : List SliceStep) :
    Except Failure (AnySpan t) := do
  let x ← w.find name
  if h : x.dtype = t then
    (do AnySpan.sliceAll ⟨h ▸ (← x.tensor.view)⟩ slices : Except Error _).mapError .error
  else throw (.otherType name)

/-- A window on the tensor of a name, at an element type and a rank. -/
def view (w : Workspace) (t : DType) (n : Nat) (name : String) (slices : List SliceStep) :
    Except Failure (Span t n) := do
  let s ← w.window t name slices
  if h : s.rank = n then return h ▸ s.span else throw (.otherType name)

/-- A leaf with the array that its name stands for. Copies are made in the memory of the state. -/
def resolve [Numerics] (w : Workspace) (c : ExecConfig) {t : DType} :
    Reference n t → StateT Memory (Except Failure) (Leaf n t)
  | .scalar v => return .scalar v
  | .tensor name => return .array (.tensor (← w.tensor t n name))
  | .view name slices => return .array (.window (← w.view t n name slices))
  | .copied name slices => do
    let s ← w.view t n name slices
    let (x, m) := Tensor.ofSpan c s (← get)
    set m
    return .array (.window x.span)

/-- An expression with the arrays that its names stand for. Leaves are resolved from left to
right, and the first that cannot be decides. -/
def expr [Numerics] (w : Workspace) (c : ExecConfig) (e : Term (Reference n) t) :
    Except Failure (Expr n t × Memory) :=
  (e.traverse (M := Leaf n) (w.resolve c)).run w.memory

end Workspace

end Strided
