import Strided.Tensor.Calculation
import Strided.Workspace.Command

/-! Commands, with their sizes, strides and slices on words.

Each definition is the one of the same name without `Steps`. A command that ends in the middle of
its calculation leaves no workspace.
-/

set_option autoImplicit false

namespace Strided

variable [Numerics]

variable {t : DType} {n : Nat}

namespace Workspace

/-! Looking up arrays. -/

def windowSteps (w : Workspace) (t : DType) (name : String) (slices : List SliceStep) :
    ExceptT Failure Calculation (AnySpan t) := do
  let x ← w.find name
  if h : x.dtype = t then
    ExceptT.adapt Failure.error do AnySpan.sliceAllSteps ⟨h ▸ (← x.tensor.view)⟩ slices
  else throw (.otherType name)

def viewSteps (w : Workspace) (t : DType) (n : Nat) (name : String) (slices : List SliceStep) :
    ExceptT Failure Calculation (Span t n) := do
  let s ← w.windowSteps t name slices
  if h : s.rank = n then return h ▸ s.span else throw (.otherType name)

def resolveSteps (w : Workspace) (c : ExecConfig) {t : DType} :
    Reference n t → StateT Memory (ExceptT Failure Calculation) (Leaf n t)
  | .scalar v => return .scalar v
  | .tensor name => return .array (.tensor (← w.tensor t n name))
  | .view name slices => return .array (.window (← w.viewSteps t n name slices))
  | .copied name slices => do
    let s ← w.viewSteps t n name slices
    let (x, m) ← (Tensor.ofSpanSteps c s (← get) : Calculation (Tensor t n × Memory))
    StateT.set m
    return .array (.window x.span)

def exprSteps (w : Workspace) (c : ExecConfig) (e : Term (Reference n) t) :
    ExceptT Failure Calculation (Expr n t × Memory) :=
  (e.traverse (M := Leaf n) (w.resolveSteps c)).run w.memory

def operandSteps (w : Workspace) (t : DType) (n : Nat) (target : Target) :
    ExceptT Failure Calculation (Operand t n) :=
  match target.window with
  | none => return .tensor (← w.tensor t n target.name)
  | some slices => return .window (← w.viewSteps t n target.name slices)

/-! Reading. -/

def elementSteps (w : Workspace) (t : DType) (n : Nat) (target : Target) (i : Index n) :
    ExceptT Failure Calculation t.Elem := do
  let a ← w.operandSteps t n target
  ExceptT.adapt Failure.outOfBounds (a.span.getSteps i w.memory)

def equalSteps (w : Workspace) (c : ExecConfig) (a b : Target) :
    ExceptT Failure Calculation Bool := do
  let (t, n) ← w.typeOf a
  let (_, k) ← w.typeOf b
  let x ← w.operandSteps t n a
  let y ← w.operandSteps t k b
  x.equalSteps c y w.memory

/-! Commands. -/

def withMemorySteps (w : Workspace) (m : ExceptT Error Calculation Memory) :
    ExceptT Failure Calculation Workspace := do
  return { w with memory := ← m.adapt Failure.error }

def withTensorSteps (w : Workspace) (name : String)
    (r : ExceptT Error Calculation (Tensor t n × Memory)) :
    ExceptT Failure Calculation Workspace := do
  let (x, m) ← r.adapt Failure.error
  return { w with memory := m }.put name x

def createSteps (w : Workspace) (c : ExecConfig) (name : String) (space : Space)
    (contents : Contents n t) : ExceptT Failure Calculation Workspace :=
  match contents with
  | .unshaped => w.withTensorSteps name (Tensor.newSteps (t := t) (n := n) space w.memory)
  | .unspecified s => w.withTensorSteps name (Tensor.emptySteps (t := t) space s w.memory)
  | .repeated s v => w.withTensorSteps name (Tensor.fullSteps c space s v w.memory)
  | .listed s data => w.withTensorSteps name (Tensor.ofListSteps space s data w.memory)
  | .nested x => w.withTensorSteps name (Tensor.ofNestedSteps space x w.memory)
  | .value e => do
    let (e, m) ← w.exprSteps c e
    w.withTensorSteps name (Tensor.ofExprSteps c space e m)

def deriveSteps (w : Workspace) (c : ExecConfig) (name source : String) (how : Derivation) :
    ExceptT Failure Calculation Workspace := do
  let x ← w.find source
  match how with
  | .clone => w.withTensorSteps name (return x.tensor.clone w.memory)
  | .emptyLike =>
    w.withTensorSteps name
      (Tensor.emptySteps (t := x.dtype) x.tensor.space x.tensor.shape w.memory)
  | .zerosLike =>
    w.withTensorSteps name
      (Tensor.fullSteps c x.tensor.space x.tensor.shape x.dtype.zero w.memory)
  | .toSpace space => w.withTensorSteps name (x.tensor.toSpaceSteps space w.memory)
  | .ofView slices => do
    let s ← w.windowSteps x.dtype source slices
    w.withTensorSteps name (Tensor.ofSpanSteps c s.span w.memory)
  | .take =>
    let (taken, left) := x.tensor.take
    return (w.put source left).put name taken

def assignSteps (w : Workspace) (c : ExecConfig) (target : Target) (e : Term (Reference n) t) :
    Calculation (Except Failure Unit × Workspace) := do
  match ← (w.operandSteps t n target).run with
  | .error fault => return (.error fault, w)
  | .ok into =>
    match into, ← (w.exprSteps c e).run with
    | _, .error fault => return (.error fault, w)
    | .tensor x, .ok (e, m) =>
      match ← x.assignSteps c e m with
      | (.ok (), x, m) => return (.ok (), { w with memory := m }.put target.name x)
      | (.error fault, x, m) =>
        return (.error (.error fault), { w with memory := m }.put target.name x)
    | .window s, .ok (e, m) =>
      match ← (s.assignSteps c e m).run with
      | .ok m => return (.ok (), { w with memory := m })
      | .error fault => return (.error (.error fault), w)

def updateSteps (w : Workspace) (c : ExecConfig) (op : BinaryOp) (target : Target)
    (e : Term (Reference n) t) : ExceptT Failure Calculation Workspace := do
  let into ← w.operandSteps t n target
  let (e, m) ← w.exprSteps c e
  match into with
  | .tensor x => w.withMemorySteps (x.updateSteps c op e m)
  | .window s => w.withMemorySteps (s.updateSteps c op e m)

def fillSteps (w : Workspace) (c : ExecConfig) (target : Target) (v : t.Elem) :
    ExceptT Failure Calculation Workspace := do
  let (_, rank) ← w.typeOf target
  match ← w.operandSteps t rank target with
  | .tensor x => w.withMemorySteps (x.fillSteps c v w.memory)
  | .window s => w.withMemorySteps (s.fillSteps c v w.memory)

def setSteps (w : Workspace) (target : Target) (i : Index n) (v : t.Elem) :
    ExceptT Failure Calculation Workspace := do
  let a ← w.operandSteps t n target
  return { w with memory := ← (a.span.setSteps i v w.memory).adapt Failure.outOfBounds }

def copySteps (w : Workspace) (c : ExecConfig) (target source : Target) (staged : Bool) :
    ExceptT Failure Calculation Workspace := do
  let (t, n) ← w.typeOf target
  let into ← w.operandSteps t n target
  let out ← w.operandSteps t n source
  if staged then
    let s ← ExceptT.adapt Failure.error (liftM out.view)
    let (x, m) ← (Tensor.ofSpanSteps c s w.memory : Calculation (Tensor t n × Memory))
    w.withMemorySteps (Operand.copySteps c (.tensor x) into m)
  else w.withMemorySteps (out.copySteps c into w.memory)

/-- A command that fails leaves the workspace as it is. -/
def settleSteps (w : Workspace) (r : ExceptT Failure Calculation Workspace) :
    Calculation (Except Failure Unit × Workspace) := do
  match ← r.run with
  | .ok w => return (.ok (), w)
  | .error fault => return (.error fault, w)

def runSteps (w : Workspace) (c : ExecConfig) (command : Command) :
    Calculation (Except Failure Unit × Workspace) :=
  match command with
  | .create name space contents => w.settleSteps (w.createSteps c name space contents)
  | .derive name source how => w.settleSteps (w.deriveSteps c name source how)
  | @Command.fullLike name source t v => w.settleSteps do
    let x ← w.find source
    w.withTensorSteps name (Tensor.fullSteps (t := t) c x.tensor.space x.tensor.shape v w.memory)
  | .assign target e => w.assignSteps c target e
  | .update op target e => w.settleSteps (w.updateSteps c op target e)
  | .fill target v => w.settleSteps (w.fillSteps c target v)
  | .set target i v => w.settleSteps (w.setSteps target i v)
  | .copy target source staged => w.settleSteps (w.copySteps c target source staged)
  | @Command.resize name n s => w.settleSteps do
    let x ← w.find name
    let x ← w.tensor x.dtype n name
    w.withTensorSteps name (x.resizeSteps s w.memory)
  | @Command.resizeDiscard name n s => w.settleSteps do
    let x ← w.find name
    let x ← w.tensor x.dtype n name
    w.withTensorSteps name (x.resizeDiscardSteps s w.memory)
  | .cloneFrom name source => w.settleSteps do
    let x ← w.find name
    let y ← w.tensor x.dtype x.rank source
    w.withTensorSteps name (return x.tensor.cloneFrom y w.memory)
  | .drop name => return (.ok (), w.erase name)

/-- Carry out commands one after the other, with what they calculate on words. -/
def afterSteps (w : Workspace) (c : ExecConfig) (commands : List Command) :
    Calculation Workspace :=
  commands.foldlM (fun w command => return (← w.runSteps c command).2) w

end Workspace

end Strided
