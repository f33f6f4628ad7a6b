import Strided.Calculation
import Strided.Span

/-! Slicing, one operation on words at a time.

The dimensions are gone through from left to right with the dimensions kept so far and the distance
so far. Looking up a dimension that is not there, moving a number between bounds that are the wrong
way round and dividing by 0 have no result.
-/

set_option autoImplicit false

namespace Strided

open Calculation (compute require ofOption)

namespace Slice

def fromStartSteps (extent : Nat) (position : Int) : Calculation Int :=
  if position < 0 then compute (position + extent) else return position

def clampSteps (low high x : Int) : Calculation Int := do
  require (low ≤ high)
  return clamp low high x

def boundSteps (extent : Nat) (low high natural : Int) : Option Int → Calculation Int
  | none => clampSteps low high natural
  | some position => do
    let p ← fromStartSteps extent position
    clampSteps low high p

/-- Divide and round up, by way of the next multiple. -/
def divideUpSteps (distance size : Int) : Calculation Int := do
  let next ← compute (distance + size)
  let numerator ← compute (next - 1)
  require (size ≠ 0)
  compute (numerator.tdiv size)

/-- The first position of a range and the number of positions. -/
def runSteps (extent : Nat) (start stop : Option Int) (step : Int) : Calculation (Int × Int) :=
  if 0 < step then do
    let first ← boundSteps extent 0 extent 0 start
    let last ← boundSteps extent 0 extent extent stop
    let distance ← compute (last - first)
    let count ← divideUpSteps (max distance 0) step
    return (first, count)
  else do
    let highest ← compute (extent - 1)
    let first ← boundSteps extent (-1) highest highest start
    let last ← boundSteps extent (-1) highest (-1) stop
    let distance ← compute (first - last)
    let size ← compute (-step)
    let count ← divideUpSteps (max distance 0) size
    return (first, count)

def moveSteps (distance position stride : Int) : Calculation Int := do
  let further ← compute (position * stride)
  compute (distance + further)

/-- Go to the first of the positions of a run, if it has any. -/
def enterSteps (distance first count stride : Int) : Calculation Int :=
  if 0 < count then moveSteps distance first stride else return distance

/-- What one entry makes of one dimension, after a distance that was gone before. -/
def axisSteps (dim : Nat) (a : Axis) (distance : Int) :
    Slice → Calculation (Except Error (Option Axis × Int))
  | all | newAxis => return .ok (some a, distance)
  | index position => do
    let p ← fromStartSteps a.extent position
    if 0 ≤ p ∧ p < a.extent then
      let distance ← moveSteps distance p a.stride
      return .ok (none, distance)
    else return .error (.invalidSlice dim (.outOfRange p a.extent))
  | range start stop step =>
    if step = 0 then return .error (.invalidSlice dim .zeroStep)
    else do
      let (first, count) ← runSteps a.extent start stop step
      let distance ← enterSteps distance first count a.stride
      let stride ← compute (a.stride * step)
      return .ok (some ⟨unsignedWord count, stride⟩, distance)

def axesSteps (axes : List Axis) (dim : Nat) (kept : List Axis) (distance : Int) :
    List Slice → Calculation (Except Error (List Axis × Int))
  | [] => return .ok (kept ++ axes.drop dim, distance)
  | newAxis :: entries => axesSteps axes dim (kept ++ [⟨1, 0⟩]) distance entries
  | entry :: entries => do
    let a ← ofOption axes[dim]?
    match ← axisSteps dim a distance entry with
    | .ok (head, distance) => axesSteps axes (dim + 1) (kept ++ head.toList) distance entries
    | .error fault => return .error fault

end Slice

variable {t : DType} {n : Nat}

def Layout.sliceSteps (l : Layout n) (entries : List Slice) (m : Nat) :
    Calculation (Except Error (Layout m × Int)) :=
  let taken := entries.countP Slice.takesAxis
  if n < taken then return .error (.invalidSlice n (.tooManyEntries taken n))
  else do
    match ← Slice.axesSteps l.axes 0 [] 0 entries with
    | .ok (kept, distance) =>
      if h : kept.length = m then return .ok (h ▸ ofAxes kept, distance)
      else return .error (.rankMismatch m kept.length)
    | .error fault => return .error fault

def Span.sliceSteps (s : Span t n) (entries : List Slice) (m : Nat) :
    ExceptT Error Calculation (Span t m) := do
  let (layout, distance) ← ExceptT.mk (s.layout.sliceSteps entries m)
  return ⟨s.space, s.start.shift distance, layout⟩

def AnySpan.sliceAllSteps (s : AnySpan t) : List SliceStep → ExceptT Error Calculation (AnySpan t)
  | [] => return s
  | step :: rest => do
    let next ← s.span.sliceSteps step.entries step.rank
    AnySpan.sliceAllSteps ⟨next⟩ rest

end Strided
