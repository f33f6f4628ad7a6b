import Strided.Device.Evaluation
import Strided.Device.IndexCode

/-! What index code does.

Statements are carried out one after the other in the names that are in scope. The body that index
code is written around is not carried out: a run of the code lists the names that the body finds
each time that its turn comes. There is no run of a loop that does not end, nor of code with a value
that is undefined.
-/

set_option autoImplicit false

namespace Strided

def CExpr.value? (env : CEnvironment) (e : CExpr) : Option Int := do
  (← e.eval env).value

/-- What the names in scope stand for, and which of them may be assigned. -/
structure CScope where
  env : CEnvironment
  assignable : List CName

inductive CFlow where
  | next (scope : CScope)
  /-- Out of the kernel. -/
  | exit

namespace CScope

/-- Give a name of type `size_t` a number. -/
def bind (scope : CScope) (x : CName) (k : Int) : CScope where
  env :=
    { scope.env with
      number? := fun y =>
        if y = x then some ⟨.sizeT, some (CInteger.sizeT.wrap k)⟩ else scope.env.number? y }
  assignable := scope.assignable

def assign? (scope : CScope) (x : CName) (k : Int) : Option CScope :=
  if x ∈ scope.assignable then some (scope.bind x k) else none

end CScope

namespace CStatement

def run? (scope : CScope) : CStatement → Option CFlow
  | constant x e => do
    let k ← e.value? scope.env
    return .next { scope.bind x k with assignable := scope.assignable.filter (· ≠ x) }
  | declare x e => do
    let k ← e.value? scope.env
    return .next { scope.bind x k with assignable := x :: scope.assignable }
  | divideBy x e => do
    let k ← CExpr.value? scope.env (.binary .div (.name x) e)
    return .next (← scope.assign? x k)
  | returnIf test => do
    let k ← test.value? scope.env
    return if k ≠ 0 then .exit else .next scope

def declared? : CStatement → Option CName
  | constant x _ | declare x _ => some x
  | divideBy _ _ | returnIf _ => none

/-- Carry out statements, up to one that leaves the kernel. -/
def runAll? (scope : CScope) : List CStatement → Option CFlow
  | [] => some (.next scope)
  | first :: rest => do
    match ← first.run? scope with
    | .next scope => runAll? scope rest
    | .exit => return .exit

end CStatement

/-- The scope around a block once the block is left: the names that it declared stand for what they
did before, and its assignments to others have been made. -/
def CScope.leave (scope : CScope) (block : List CStatement) (inner : CScope) : CScope where
  env :=
    { inner.env with
      number? := fun x =>
        if x ∈ block.filterMap CStatement.declared? then scope.env.number? x
        else inner.env.number? x }
  assignable := scope.assignable

/-- A loop over a block, from a scope on: the names that the body finds in each round. -/
inductive CLoop.Runs (l : CLoop) (block : List CStatement) : CScope → List CEnvironment → Prop where
  | finished {scope : CScope} (test : l.test.value? scope.env = some 0) : Runs l block scope []
  | exit {scope : CScope} {k : Int} (test : l.test.value? scope.env = some k) (holds : k ≠ 0)
    (left : CStatement.runAll? scope block = some .exit) : Runs l block scope []
  | round {scope inner next : CScope} {k more : Int} {bodies : List CEnvironment}
    (test : l.test.value? scope.env = some k) (holds : k ≠ 0)
    (done : CStatement.runAll? scope block = some (.next inner))
    (sum : CExpr.value? (scope.leave block inner).env (.binary .add (.name l.counter) l.step) =
      some more)
    (step : (scope.leave block inner).assign? l.counter more = some next)
    (rest : Runs l block next bodies) : Runs l block scope (inner.env :: bodies)

/-- The names that the body finds, in the order in which its turns come. -/
inductive IndexCode.Runs : IndexCode → CEnvironment → List CEnvironment → Prop where
  | body {lines : List (List CStatement)} {env : CEnvironment} {scope : CScope}
    (done : CStatement.runAll? ⟨env, []⟩ lines.flatten = some (.next scope)) :
    Runs ⟨none, lines⟩ env [scope.env]
  | exit {lines : List (List CStatement)} {env : CEnvironment}
    (left : CStatement.runAll? ⟨env, []⟩ lines.flatten = some .exit) : Runs ⟨none, lines⟩ env []
  | loop {l : CLoop} {lines : List (List CStatement)} {env : CEnvironment} {scope : CScope}
    {bodies : List CEnvironment}
    (start : (CStatement.declare l.counter l.start).run? ⟨env, []⟩ = some (.next scope))
    (rounds : l.Runs lines.flatten scope bodies) : Runs ⟨some l, lines⟩ env bodies

def Dim3.along (v : Dim3) : GridAxis → UInt32
  | .x => v.x
  | .y => v.y
  | .z => v.z

def Dim3.Below (v extents : Dim3) : Prop :=
  v.x < extents.x ∧ v.y < extents.y ∧ v.z < extents.z

/-- The names of a kernel in one lane of a grid, where a block and its lanes have positions. -/
def CEnvironment.atLane {n : Nat} (env : CEnvironment) (p : LaunchPlan n) (block lane : Dim3) :
    CEnvironment :=
  { env with
    number? := fun
      | .blockIdx a => some ⟨.uint32, some (block.along a).toNat⟩
      | .threadIdx a => some ⟨.uint32, some (lane.along a).toNat⟩
      | .blockDim a => some ⟨.uint32, some (p.block.along a).toNat⟩
      | .gridDim a => some ⟨.uint32, some (p.grid.along a).toNat⟩
      | x => env.number? x }

/-- The index variables have the given values, and the parameters are those of the kernel. -/
structure CEnvironment.Binds (env : CEnvironment) (is : List Nat) (body : CEnvironment) : Prop where
  index : ∀ (d k : Nat), is[d]? = some k → body.number? (.index d) = some ⟨.sizeT, some k⟩
  scalar : ∀ k, body.number? (.scalar k) = env.number? (.scalar k)
  array : body.array? = env.array?
  memory : body.memory = env.memory

end Strided
