import Strided.Device.CExpr
import Strided.LaunchPlan

/-! Device code that binds the index variables of a lane.

The code follows the launch plan: a tiled grid computes one index per lane and returns early
outside the shape, a walk along a line loops over the element numbers of a lane.
-/

set_option autoImplicit false

namespace Strided

inductive CStatement where
  /-- Declare a variable that keeps its value. -/
  | constant (x : CName) (e : CExpr)
  /-- Declare a variable. -/
  | declare (x : CName) (e : CExpr)
  | divideBy (x : CName) (e : CExpr)
  | returnIf (test : CExpr)
  deriving DecidableEq, Repr

def CStatement.text : CStatement → String
  | constant x e => "const size_t " ++ x.text ++ " = " ++ e.text ++ ";"
  | declare x e => "size_t " ++ x.text ++ " = " ++ e.text ++ ";"
  | divideBy x e => x.text ++ " /= " ++ e.text ++ ";"
  | returnIf test => "if (" ++ test.text ++ ") return;"

/-- A loop that counts a variable from a start in equal steps. -/
structure CLoop where
  counter : CName
  start : CExpr
  test : CExpr
  step : CExpr
  deriving DecidableEq, Repr

def CLoop.text (l : CLoop) : String :=
  "for (size_t " ++ l.counter.text ++ " = " ++ l.start.text ++ "; " ++ l.test.text ++ "; " ++
    l.counter.text ++ " += " ++ l.step.text ++ ")"

/-- Statements that bind the index variables, in the lines in which they are written. With a loop
they are repeated, and whatever uses the index is repeated with them. -/
structure IndexCode where
  loop : Option CLoop
  lines : List (List CStatement)
  deriving DecidableEq, Repr

namespace IndexCode

def text (code : IndexCode) (body : String) : String :=
  let block (indent : String) : String :=
    String.join (code.lines.map fun line =>
      indent ++ String.intercalate " " (line.map CStatement.text) ++ "\n") ++ indent ++ body
  match code.loop with
  | none => block "    "
  | some l => "    " ++ l.text ++ " \x7b\n" ++ block "        " ++ "\n    \x7d"

def literal (k : Nat) : CExpr :=
  .literal k .unsignedLongLong

/-- The position of the current lane along one axis of the whole grid. -/
def lane (a : GridAxis) : CExpr :=
  .binary .add
    (.binary .mul (.leadingCast .sizeT (.name (.blockIdx a))) (.name (.blockDim a)))
    (.name (.threadIdx a))

def splitOff (x : CName) (dim extent : Nat) : List CStatement :=
  [.constant (.index dim) (.binary .rem (.name x) (literal extent)), .divideBy x (literal extent)]

/-- Split off the components of consecutive dimensions, starting with `dim`. -/
def splitAll (x : CName) (dim : Nat) : List Nat → List (List CStatement)
  | [] => []
  | e :: es => splitOff x dim e :: splitAll x (dim + 1) es

def outside (dim extent : Nat) : CExpr :=
  .binary .atLeast (.name (.index dim)) (literal extent)

/-- The code of a tiled grid, for the extents of a shape. -/
def tiled : List Nat → IndexCode
  | [] => ⟨none, []⟩
  | [e] => ⟨none, [[.constant (.index 0) (lane .x)], [.returnIf (outside 0 e)]]⟩
  | e₀ :: e₁ :: outer =>
    ⟨none,
      [[.constant (.index 0) (lane .x)], [.constant (.index 1) (lane .y)],
        [.returnIf (.binary .or (outside 0 e₀) (outside 1 e₁))]] ++
      (if outer = [] then [] else [[.declare .outer (.name (.blockIdx .z))]]) ++
      splitAll .outer 2 outer⟩

/-- The code of a walk along a line, for the extents of a shape. -/
def linear (es : List Nat) : IndexCode where
  loop := some {
    counter := .element
    start := lane .x
    test := .binary .less (.name .element) (literal (Radix.size es))
    step := .binary .mul (.leadingCast .sizeT (.name (.blockDim .x))) (.name (.gridDim .x)) }
  lines := [.declare .rest (.name .element)] :: splitAll .rest 0 es

end IndexCode

/-- The code that binds the index variables as the plan deals out indices. -/
def LaunchPlan.indexCode {n : Nat} (p : LaunchPlan n) : IndexCode :=
  match p.strategy with
  | .linear => .linear p.shape.toList
  | .perAxis | .outerLinearized => .tiled p.shape.toList

end Strided
