import Strided.Binary.Format

/-! The shortest decimal number that reads back as a given binary one.

A binary number stands for all reals that round to it. Decimal grids are tried from coarse to
fine; on the first that meets this interval, the grid point nearest to the number is taken, and
of two equally near ones the larger.
-/

set_option autoImplicit false

namespace Strided.Decimal

/-- The interval of a number, all over one denominator: `low`, the number, and `high`. The ends
belong to it when `closed` is set. -/
structure Interval where
  low : Nat
  number : Nat
  high : Nat
  denominator : Nat
  closed : Bool
  deriving DecidableEq, Repr

/-- `digits * 10 ^ exponent`. -/
structure Scientific where
  digits : Nat
  exponent : Int
  deriving DecidableEq, Repr

/-- The reals that round to `mantissa * 2 ^ exponent`. Below a number at the start of a binade the
neighbours lie half as far apart. -/
def interval (f : Binary.Format) (mantissa : Nat) (exponent : Int) : Interval :=
  let scale := Nat.pow 2 (exponent - 2).toNat
  { low := (4 * mantissa - if mantissa = Nat.pow 2 f.fractionBits then 1 else 2) * scale
    number := 4 * mantissa * scale
    high := (4 * mantissa + 2) * scale
    denominator := Nat.pow 2 (2 - exponent).toNat
    closed := mantissa % 2 = 0 }

def Interval.holds (r : Interval) (numerator denominator : Nat) : Bool :=
  let x := numerator * r.denominator
  let low := r.low * denominator
  let high := r.high * denominator
  if r.closed then low ≤ x && x ≤ high else low < x && x < high

/-- The grid point of `10 ^ exponent` that lies in the interval and is nearest to its number. -/
def Interval.onGrid? (r : Interval) (exponent : Int) : Option Nat :=
  let up := Nat.pow 10 exponent.toNat
  let down := Nat.pow 10 (-exponent).toNat
  let below := r.number * down / (r.denominator * up)
  let within (d : Nat) := r.holds (d * up) down
  if within below && within (below + 1) then
    -- Twice the distance from below, against one step of the grid.
    let rest := 2 * (r.number * down - below * (r.denominator * up))
    some (if r.denominator * up ≤ rest then below + 1 else below)
  else if within below then some below
  else if within (below + 1) then some (below + 1)
  else none

/-- The first hit on the next `steps` grids, each ten times as fine as the one before. -/
def Interval.firstHit (r : Interval) : Nat → Int → Option Scientific
  | 0, _ => none
  | steps + 1, exponent =>
    match r.onGrid? exponent with
    | some d => some ⟨d, exponent⟩
    | none => r.firstHit steps (exponent - 1)

/-- The least power of ten above a positive fraction, sought upwards from an estimate. -/
def powerAbove (numerator denominator : Nat) : Nat → Int → Int
  | 0, exponent => exponent
  | steps + 1, exponent =>
    if numerator * Nat.pow 10 (-exponent).toNat < denominator * Nat.pow 10 exponent.toNat then
      exponent
    else powerAbove numerator denominator steps (exponent + 1)

def Scientific.normalize (s : Scientific) : Scientific :=
  if h : s.digits = 0 ∨ s.digits % 10 ≠ 0 then s
  else normalize ⟨s.digits / 10, s.exponent + 1⟩
termination_by s.digits
decreasing_by omega

/-- Seventeen digits tell any two numbers of the formats in use apart. -/
def enoughDigits : Nat := 17

/-- The shortest decimal for `mantissa * 2 ^ exponent`, which is not zero. -/
def shortest (f : Binary.Format) (mantissa : Nat) (exponent : Int) : Scientific :=
  let r := interval f mantissa exponent
  -- The decimal logarithm of 2 lies between 0.30 and 0.31, so the estimate is never too high.
  let binade : Int := mantissa.log2 + exponent
  let estimate := if 0 ≤ binade then binade * 3 / 10 else binade * 31 / 100 - 1
  let above := powerAbove r.number r.denominator 40 estimate
  ((r.firstHit enoughDigits (above - 1)).getD ⟨mantissa, exponent⟩).normalize

end Strided.Decimal
