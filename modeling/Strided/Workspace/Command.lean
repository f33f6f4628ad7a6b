import Strided.Workspace

/-! Commands that make and change named tensors. -/

set_option autoImplicit false

namespace Strided

variable [Numerics]

variable {t : DType} {n : Nat}

inductive Contents (n : Nat) (t : DType) where
  /-- Nothing yet, not even a shape. -/
  | unshaped
  | unspecified (s : Shape n)
  | repeated (s : Shape n) (v : t.Elem)
  | listed (s : Shape n) (data : List t.Elem)
  | nested (x : Nested t.Elem n)
  | value (e : Term (Reference n) t)

inductive Derivation where
  | clone
  /-- A tensor of the same shape, its elements unspecified. -/
  | emptyLike
  | zerosLike
  | toSpace (space : Space)
  /-- A dense copy of a window. -/
  | ofView (slices : List SliceStep)
  /-- The buffer moves to the new tensor. -/
  | take
  deriving DecidableEq, Repr

/-- A named tensor, or a window on it. -/
structure Target where
  name : String
  window : Option (List SliceStep) := none
  deriving DecidableEq, Repr

inductive Command where
  | create (name : String) (space : Space) {t : DType} {n : Nat} (contents : Contents n t)
  | derive (name source : String) (how : Derivation)
  | fullLike (name source : String) {t : DType} (v : t.Elem)
  | assign (target : Target) {t : DType} {n : Nat} (e : Term (Reference n) t)
  | update (op : BinaryOp) (target : Target) {t : DType} {n : Nat} (e : Term (Reference n) t)
  | fill (target : Target) {t : DType} (v : t.Elem)
  | set (target : Target) {t : DType} {n : Nat} (i : Index n) (v : t.Elem)
  | copy (target source : Target) (staged : Bool)
  | resize (name : String) {n : Nat} (s : Shape n)
  | resizeDiscard (name : String) {n : Nat} (s : Shape n)
  | cloneFrom (name source : String)
  | drop (name : String)

namespace Workspace

/-- The array that a target stands for, at an element type and a rank. -/
def operand (w : Workspace) (t : DType) (n : Nat) (target : Target) :
    Except Failure (Operand t n) :=
  match target.window with
  | none => return .tensor (← w.tensor t n target.name)
  | some slices => return .window (← w.view t n target.name slices)

/-- The element type of a named tensor, and the rank of the target. -/
def typeOf (w : Workspace) (target : Target) : Except Failure (DType × Nat) := do
  let x ← w.find target.name
  let rank := match target.window.bind List.getLast? with
    | some step => step.rank
    | none => x.rank
  return (x.dtype, rank)

def element (w : Workspace) (t : DType) (n : Nat) (target : Target) (i : Index n) :
    Except Failure t.Elem := do
  ((← w.operand t n target).span.get? i w.memory).mapError .outOfBounds

/-- Whether two targets are equal as arrays. They may differ in rank. -/
def equal (w : Workspace) (c : ExecConfig) (a b : Target) : Except Failure Bool := do
  let (t, n) ← w.typeOf a
  let (_, k) ← w.typeOf b
  return (← w.operand t n a).equal c (← w.operand t k b) w.memory

def withMemory (w : Workspace) (m : Except Error Memory) : Except Failure Workspace :=
  match m with
  | .ok m => .ok { w with memory := m }
  | .error e => .error (.error e)

/-- The workspace with a tensor under a name, after an operation that may fail. -/
def withTensor (w : Workspace) (name : String) (r : Except Error (Tensor t n × Memory)) :
    Except Failure Workspace :=
  match r with
  | .ok (x, m) => .ok ({ w with memory := m }.put name x)
  | .error e => .error (.error e)

def create (w : Workspace) (c : ExecConfig) (name : String) (space : Space)
    (contents : Contents n t) : Except Failure Workspace :=
  match contents with
  | .unshaped => w.withTensor name (.ok (Tensor.new (t := t) (n := n) space w.memory))
  | .unspecified s => w.withTensor name (.ok (Tensor.empty (t := t) space s w.memory))
  | .repeated s v => w.withTensor name (.ok (Tensor.full c space s v w.memory))
  | .listed s data => w.withTensor name (Tensor.ofList space s data w.memory)
  | .nested x => w.withTensor name (Tensor.ofNested space x w.memory)
  | .value e => do
    let (e, m) ← w.expr c e
    w.withTensor name (Tensor.ofExpr c space e m)

def derive (w : Workspace) (c : ExecConfig) (name source : String) (how : Derivation) :
    Except Failure Workspace := do
  let x ← w.find source
  match how with
  | .clone => w.withTensor name (.ok (x.tensor.clone w.memory))
  | .emptyLike =>
    w.withTensor name (.ok (Tensor.empty (t := x.dtype) x.tensor.space x.tensor.shape w.memory))
  | .zerosLike =>
    w.withTensor name (.ok (Tensor.full c x.tensor.space x.tensor.shape x.dtype.zero w.memory))
  | .toSpace space => w.withTensor name (x.tensor.toSpace space w.memory)
  | .ofView slices => do
    let s ← w.window x.dtype source slices
    w.withTensor name (.ok (Tensor.ofSpan c s.span w.memory))
  | .take =>
    let (taken, left) := x.tensor.take
    return (w.put source left).put name taken

/-- Assign to a target. The workspace that is left holds what a failed assignment leaves. -/
def assign (w : Workspace) (c : ExecConfig) (target : Target) (e : Term (Reference n) t) :
    Except Failure Unit × Workspace :=
  match w.operand t n target, w.expr c e with
  | .error fault, _ => (.error fault, w)
  | .ok _, .error fault => (.error fault, w)
  | .ok (.tensor x), .ok (e, m) =>
    match x.assign c e m with
    | (.ok (), x, m) => (.ok (), { w with memory := m }.put target.name x)
    | (.error fault, x, m) => (.error (.error fault), { w with memory := m }.put target.name x)
  | .ok (.window s), .ok (e, m) =>
    match s.assign c e m with
    | .ok m => (.ok (), { w with memory := m })
    | .error fault => (.error (.error fault), w)

def update (w : Workspace) (c : ExecConfig) (op : BinaryOp) (target : Target)
    (e : Term (Reference n) t) : Except Failure Workspace := do
  let into ← w.operand t n target
  let (e, m) ← w.expr c e
  match into with
  | .tensor x => w.withMemory (x.update c op e m)
  | .window s => w.withMemory (s.update c op e m)

def fill (w : Workspace) (c : ExecConfig) (target : Target) (v : t.Elem) :
    Except Failure Workspace := do
  let (_, rank) ← w.typeOf target
  match ← w.operand t rank target with
  | .tensor x => w.withMemory (x.fill c v w.memory)
  | .window s => w.withMemory (s.fill c v w.memory)

def set (w : Workspace) (target : Target) (i : Index n) (v : t.Elem) :
    Except Failure Workspace := do
  match (← w.operand t n target).span.set? i v w.memory with
  | .ok m => return { w with memory := m }
  | .error b => throw (.outOfBounds b)

/-- Copy from a source to a target. The target is looked up first. A staged source is copied to a
dense temporary before. -/
def copy (w : Workspace) (c : ExecConfig) (target source : Target) (staged : Bool) :
    Except Failure Workspace := do
  let (t, n) ← w.typeOf target
  let into ← w.operand t n target
  let out ← w.operand t n source
  if staged then
    match out.view with
    | .ok s =>
      let (x, m) := Tensor.ofSpan c s w.memory
      w.withMemory (Operand.copy c (.tensor x) into m)
    | .error e => throw (.error e)
  else w.withMemory (out.copy c into w.memory)

/-- The outcome of a step that leaves everything as it was when it fails. -/
def settle (w : Workspace) : Except Failure Workspace → Except Failure Unit × Workspace
  | .ok w' => (.ok (), w')
  | .error fault => (.error fault, w)

/-- Carry out a command. The workspace that is left holds what the command leaves, whether or not
it succeeded. -/
def run (w : Workspace) (c : ExecConfig) (command : Command) :
    Except Failure Unit × Workspace :=
  match command with
  | .create name space contents => w.settle (w.create c name space contents)
  | .derive name source how => w.settle (w.derive c name source how)
  | @Command.fullLike name source t v => w.settle do
    let x ← w.find source
    w.withTensor name (.ok (Tensor.full (t := t) c x.tensor.space x.tensor.shape v w.memory))
  | .assign target e => w.assign c target e
  | .update op target e => w.settle (w.update c op target e)
  | .fill target v => w.settle (w.fill c target v)
  | .set target i v => w.settle (w.set target i v)
  | .copy target source staged => w.settle (w.copy c target source staged)
  | @Command.resize name n s => w.settle do
    let x ← w.find name
    let x ← w.tensor x.dtype n name
    w.withTensor name (.ok (x.resize s w.memory))
  | @Command.resizeDiscard name n s => w.settle do
    let x ← w.find name
    let x ← w.tensor x.dtype n name
    w.withTensor name (.ok (x.resizeDiscard s w.memory))
  | .cloneFrom name source => w.settle do
    let x ← w.find name
    let y ← w.tensor x.dtype x.rank source
    w.withTensor name (.ok (x.tensor.cloneFrom y w.memory))
  | .drop name => (.ok (), w.erase name)

def after (w : Workspace) (c : ExecConfig) (commands : List Command) : Workspace :=
  commands.foldl (fun w command => (w.run c command).2) w

end Workspace

end Strided
