import Strided.Expr
import Strided.LaunchPlan

/-! Launching a kernel: writing its value at every index of a window.

The host counts through the indices in column-major order. The `threads` space walks the grid of
a launch plan, block after block here; its blocks may run in any order.
-/

set_option autoImplicit false

namespace Strided

variable {t : DType} {n : Nat}

/-- The indices of a shape in the order in which a space visits them. -/
def visits (c : ExecConfig) (space : Space) (s : Shape n) : List (Index n) :=
  match space with
  | .threads => (((LaunchPlan.ofShape? s c).bind LaunchPlan.cover?).getD []).flatten
  | .host | .cuda _ => s.indices

def writeAt [Numerics] (k : Kernel n t) (target : Span t n) (m : Memory) (i : Index n) : Memory :=
  target.write m i (k.valueAt m i)

/-- Write the value of a kernel at every index of a window, one index after the other. -/
def launch [Numerics] (c : ExecConfig) (target : Span t n) (k : Kernel n t) (m : Memory) : Memory :=
  (visits c target.space target.shape).foldl (writeAt k target) m

/-- How often a space visits each element, in column-major order. -/
def visitCounts (c : ExecConfig) (space : Space) (s : Shape n) : List Nat :=
  let seen := visits c space s
  s.indices.map fun i => seen.count i

end Strided
