import Strided.Slice.Calculation
import Strided.Layout.Calculation
import Strided.Tensor.Element
import Strided.Tensor.Literal
import Strided.Tensor.Transfer

/-! Operations on arrays, with their sizes, strides and slices on words.

Each operation is the one of the same name without `Steps`, and calculates what that one is given.
Elements have the addresses that their offsets give without a bound: the offsets of a dense array
are words where its size is one, and a window has no others.
-/

set_option autoImplicit false

namespace Strided

variable [Numerics]

variable {t : DType} {n : Nat}

namespace Tensor

def emptySteps (space : Space) (s : Shape n) (m : Memory) : Calculation (Tensor t n × Memory) := do
  let layout ← Layout.contiguousSteps s
  let (storage, m) := Storage.new space (← s.sizeSteps) m
  return (⟨layout, storage⟩, m)

def newSteps (space : Space) (m : Memory) : Calculation (Tensor t n × Memory) :=
  emptySteps space .zeros m

/-- The length is compared before the strides are calculated. -/
def ofListSteps (space : Space) (s : Shape n) (data : List t.Elem) (m : Memory) :
    ExceptT Error Calculation (Tensor t n × Memory) := do
  let size ← s.sizeSteps
  if size = data.length then
    let (storage, m) := Storage.ofList space data m
    return (⟨← Layout.contiguousSteps s, storage⟩, m)
  else throw (.sizeMismatch size data.length)

def ofNestedSteps (space : Space) (x : Nested t.Elem n) (m : Memory) :
    ExceptT Error Calculation (Tensor t n × Memory) := do
  let s ← x.shape
  ofListSteps space s (x.flatten n) m

def resizeSteps (s : Shape n) (x : Tensor t n) (m : Memory) :
    Calculation (Tensor t n × Memory) := do
  let (storage, m) := x.storage.resize (← s.sizeSteps) m
  return (⟨← Layout.contiguousSteps s, storage⟩, m)

def resizeDiscardSteps (s : Shape n) (x : Tensor t n) (m : Memory) :
    Calculation (Tensor t n × Memory) := do
  let (storage, m) := x.storage.resizeDiscard (← s.sizeSteps) m
  return (⟨← Layout.contiguousSteps s, storage⟩, m)

def fullSteps (c : ExecConfig) (space : Space) (s : Shape n) (v : t.Elem) (m : Memory) :
    Calculation (Tensor t n × Memory) := do
  let (x, m) ← emptySteps space s m
  let size ← x.shape.sizeSteps
  return (x, if size = 0 then m else launch c x.span (.leaf (.scalar v)) m)

def adoptSteps (x : Tensor t n) (s : Shape n) (m : Memory) : Calculation (Tensor t n × Memory) :=
  if x.isMovedFrom || (x.isUnshaped && x.shape ≠ s) then x.resizeDiscardSteps s m
  else return (x, m)

def ofSpanSteps (c : ExecConfig) (s : Span t n) (m : Memory) :
    Calculation (Tensor t n × Memory) := do
  let (x, m) ← emptySteps s.space s.shape m
  let size ← x.shape.sizeSteps
  if size = 0 then return (x, m)
  else if ← s.layout.isContiguousSteps then return (x, m.copy t s.start x.storage.start size)
  else return (x, launch c x.span (.leaf (.window s)) m)

def toSpaceSteps (space : Space) (x : Tensor t n) (m : Memory) :
    ExceptT Error Calculation (Tensor t n × Memory) := do
  x.ensureLive
  let (y, m) ← emptySteps space x.shape m
  return (y, m.copy t x.storage.start y.storage.start (← x.shape.sizeSteps))

end Tensor

namespace Span

def assignSteps (c : ExecConfig) (target : Span t n) (e : Expr n t) (m : Memory) :
    ExceptT Error Calculation Memory := do
  let s ← e.shape
  e.checkSpace target.space
  s.broadcastsTo target.shape
  let size ← target.shape.sizeSteps
  return if size = 0 then m else launch c target (e.lower target.shape) m

def updateSteps (c : ExecConfig) (op : BinaryOp) (target : Span t n) (e : Expr n t) (m : Memory) :
    ExceptT Error Calculation Memory :=
  target.assignSteps c (.binary op (.leaf (.array (.window target))) e) m

def fillSteps (c : ExecConfig) (target : Span t n) (v : t.Elem) (m : Memory) :
    ExceptT Error Calculation Memory :=
  target.assignSteps c (.leaf (.scalar v)) m

def toListSteps (c : ExecConfig) (s : Span t n) (m : Memory) : Calculation (List t.Elem) := do
  let size ← s.shape.sizeSteps
  if size = 0 then return []
  else if ← s.layout.isContiguousSteps then return m.readRun t s.start size
  else
    let (staged, m) ← Tensor.ofSpanSteps c s m
    return m.readRun t staged.storage.start size

def equalSteps {k : Nat} (c : ExecConfig) (a : Span t n) (b : Span t k) (m : Memory) :
    Calculation Bool := do
  if a.shape.toList = b.shape.toList then
    let xs ← a.toListSteps c m
    return xs == (← b.toListSteps c m)
  else return false

/-- Both windows are tested for density, whatever the first test says. -/
def transferSteps (c : ExecConfig) (source target : Span t n) (size : Nat) (m : Memory) :
    Calculation Memory := do
  let dense ← source.layout.isContiguousSteps
  let ready ← target.layout.isContiguousSteps
  if dense && ready then return m.copy t source.start target.start size
  else if source.space = target.space then return launch c target (.leaf (.window source)) m
  else
    let (staged, m) ← Tensor.ofSpanSteps c source m
    if ready then return m.copy t staged.storage.start target.start size
    else
      let (landed, m) ← Tensor.emptySteps target.space target.shape m
      return launch c target (.leaf (.window landed.span))
        (m.copy t staged.storage.start landed.storage.start size)

def cellSteps (s : Span t n) (i : Index n) : ExceptT OutOfBounds Calculation Address := do
  if s.shape.Contains i then return s.start.shift (← s.layout.offsetSteps i)
  else throw ⟨i.toList, s.shape.toList⟩

def getSteps (s : Span t n) (i : Index n) (m : Memory) :
    ExceptT OutOfBounds Calculation t.Elem := do
  return m.read t (← s.cellSteps i)

def setSteps (s : Span t n) (i : Index n) (v : t.Elem) (m : Memory) :
    ExceptT OutOfBounds Calculation Memory := do
  return m.write t (← s.cellSteps i) v

end Span

namespace Operand

def sliceSteps (a : Operand t n) (entries : List Slice) (k : Nat) :
    ExceptT Error Calculation (Span t k) := do
  (← a.view).sliceSteps entries k

def copySteps (c : ExecConfig) (source target : Operand t n) (m : Memory) :
    ExceptT Error Calculation Memory := do
  let origin ← source.view
  let into ← target.view
  if origin.shape = into.shape then
    let size ← origin.shape.sizeSteps
    if size = 0 then return m else origin.transferSteps c into size m
  else throw (.shapeMismatch into.shape.toList origin.shape.toList)

def equalSteps {k : Nat} (c : ExecConfig) (a : Operand t n) (b : Operand t k) (m : Memory) :
    Calculation Bool :=
  match a.view, b.view with
  | .ok a, .ok b => a.equalSteps c b m
  | _, _ => return false

def toListSteps (c : ExecConfig) (a : Operand t n) (m : Memory) :
    ExceptT Error Calculation (List t.Elem) := do
  (← a.view).toListSteps c m

end Operand

def Leaf.sliceSteps (entries : List Slice) (k : Nat) :
    Leaf n t → ExceptT Error Calculation (Leaf k t)
  | array a => return .array (.window (← a.sliceSteps entries k))
  | scalar v => return .scalar v

def Term.sliceSteps (e : Expr n t) (entries : List Slice) (k : Nat) :
    ExceptT Error Calculation (Expr k t) :=
  e.traverse (Leaf.sliceSteps entries k)

namespace Tensor

/-- The shape is adopted before the expression is evaluated into the tensor. -/
def assignSteps (c : ExecConfig) (x : Tensor t n) (e : Expr n t) (m : Memory) :
    Calculation (Except Error Unit × Tensor t n × Memory) :=
  match e.shape, e.checkSpace x.space with
  | .error fault, _ => return (.error fault, x, m)
  | .ok _, .error fault => return (.error fault, x, m)
  | .ok s, .ok () => do
    let (x, m) ← x.adoptSteps s m
    match ← (x.span.assignSteps c e m).run with
    | .error fault => return (.error fault, x, m)
    | .ok m => return (.ok (), x, m)

def updateSteps (c : ExecConfig) (op : BinaryOp) (x : Tensor t n) (e : Expr n t) (m : Memory) :
    ExceptT Error Calculation Memory := do
  let target ← x.view
  target.updateSteps c op e m

def fillSteps (c : ExecConfig) (x : Tensor t n) (v : t.Elem) (m : Memory) :
    ExceptT Error Calculation Memory := do
  let target ← x.view
  target.fillSteps c v m

def ofExprSteps (c : ExecConfig) (space : Space) (e : Expr n t) (m : Memory) :
    ExceptT Error Calculation (Tensor t n × Memory) := do
  let (x, m) ← (newSteps space m : Calculation (Tensor t n × Memory))
  match ← x.assignSteps c e m with
  | (.ok (), x, m) => return (x, m)
  | (.error fault, _, _) => throw fault

end Tensor

end Strided
