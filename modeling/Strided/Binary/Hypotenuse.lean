import Strided.Binary.Format

/-! The length of the hypotenuse of a right triangle, rounded once.

The sum of squares is formed exactly, and its root is taken to more bits than any format keeps,
with a last bit that records whether anything was cut off.
-/

set_option autoImplicit false

namespace Strided.Binary

def floorSqrt (n : Nat) : Nat :=
  if h : n = 0 then 0
  else
    let root := 2 * floorSqrt (n / 4)
    if (root + 1) * (root + 1) ≤ n then root + 1 else root
termination_by n
decreasing_by omega

/-- The root of `square * 2 ^ (2 * exponent)` to `extra` more bits, and a bit for the rest. -/
def stickyRoot (square : Nat) (exponent : Int) (extra : Nat) : Number :=
  let scaled := square * Nat.pow 2 (2 * extra)
  let root := floorSqrt scaled
  let rest := if root * root = scaled then 0 else 1
  .finite false (2 * root + rest) (exponent - extra - 1)

/-- The hypotenuse over two finite legs; the length is infinite over an infinite leg whatever
the other one is. -/
def hypotenuse (a b : Number) : Number :=
  match a, b with
  | .infinite _, _ | _, .infinite _ => .infinite false
  | .nan _, _ | _, .nan _ => .nan false
  | .finite _ m p, .finite _ k q =>
    let unit := min p q
    let x := m * Nat.pow 2 (p - unit).toNat
    let y := k * Nat.pow 2 (q - unit).toNat
    stickyRoot (x * x + y * y) unit 64

end Strided.Binary
