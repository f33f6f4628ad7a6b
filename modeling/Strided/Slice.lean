import Strided.Layout

/-! Slicing: picking positions along each dimension of a layout.

An entry keeps a dimension, picks a regular run of its positions, fixes it at one position, or
adds a new dimension of extent 1. Entries are matched with dimensions in order and dimensions
without an entry are kept. Negative positions count from the end. Slicing moves no element: the
result is a new layout and the distance from the old first element to the new one. The numbers have
no bound here, and `Slice.Calculation` has them on words.
-/

set_option autoImplicit false

namespace Strided

/-- One entry of a slicing request. -/
inductive Slice where
  | all
  /-- The positions from `start` to before `stop`, `step` apart. A bound that is not given is the
  end of the dimension that the direction of `step` calls for. -/
  | range (start stop : Option Int) (step : Int)
  | index (position : Int)
  | newAxis
  deriving DecidableEq, Repr

/-- One dimension of a layout. -/
structure Axis where
  extent : Nat
  stride : Int
  deriving DecidableEq, Repr

namespace Slice

def between (start stop : Int) : Slice :=
  range (some start) (some stop) 1

def since (start : Int) : Slice :=
  range (some start) none 1

def upTo (stop : Int) : Slice :=
  range none (some stop) 1

def reversed : Slice :=
  range none none (-1)

/-- The entry takes up a dimension of the array. -/
def takesAxis : Slice → Bool
  | newAxis => false
  | _ => true

def fromStart (extent : Nat) (position : Int) : Int :=
  if position < 0 then position + extent else position

def clamp (low high x : Int) : Int :=
  max low (min x high)

/-- How many steps of a positive size it takes to cover a distance. -/
def stepsToCover (distance size : Int) : Nat :=
  ((max distance 0 + size - 1) / size).toNat

/-- A regular run of positions: where it begins and how many there are. -/
structure Run where
  first : Int
  count : Nat
  deriving DecidableEq, Repr

/-- The run that a range with a step other than 0 picks from a dimension. -/
def run (extent : Nat) (start stop : Option Int) (step : Int) : Run :=
  let bound (given : Option Int) (natural : Int) := (given.map (fromStart extent)).getD natural
  if 0 < step then
    let first := clamp 0 extent (bound start 0)
    let last := clamp 0 extent (bound stop extent)
    ⟨first, stepsToCover (last - first) step⟩
  else
    let first := clamp (-1) (extent - 1) (bound start (extent - 1))
    let last := clamp (-1) (extent - 1) (bound stop (-1))
    ⟨first, stepsToCover (first - last) (-step)⟩

/-- What one entry makes of one dimension: the dimension that is kept, if any, and the distance
to its first element. `dim` is the number of the dimension for reports. -/
def onAxis (dim : Nat) (a : Axis) : Slice → Except Error (Option Axis × Int)
  | all => .ok (some a, 0)
  | index position =>
    let p := fromStart a.extent position
    if 0 ≤ p ∧ p < a.extent then .ok (none, p * a.stride)
    else .error (.invalidSlice dim (.outOfRange p a.extent))
  | range start stop step =>
    if step = 0 then .error (.invalidSlice dim .zeroStep)
    else
      let r := run a.extent start stop step
      .ok (some ⟨r.count, a.stride * step⟩, if r.count = 0 then 0 else r.first * a.stride)
  | newAxis => .ok (some a, 0)

/-- Match entries with dimensions from left to right, `dim` being the first dimension's number.
The first entry at fault decides. -/
def onAxes (dim : Nat) : List Slice → List Axis → Except Error (List Axis × Int)
  | [], axes => .ok (axes, 0)
  | newAxis :: entries, axes => do
    let (kept, distance) ← onAxes dim entries axes
    return (⟨1, 0⟩ :: kept, distance)
  | _ :: entries, [] => .error (.invalidSlice dim (.tooManyEntries (entries.length + 1) dim))
  | entry :: entries, a :: axes => do
    let (head, near) ← entry.onAxis dim a
    let (kept, far) ← onAxes (dim + 1) entries axes
    return (head.toList ++ kept, near + far)

end Slice

namespace Layout

variable {n : Nat}

def axes (l : Layout n) : List Axis :=
  List.zipWith Axis.mk l.shape.toList l.strides.toList

def ofAxes (axes : List Axis) : Layout axes.length :=
  ⟨⟨⟨(axes.map Axis.extent).toArray, by simp⟩⟩, ⟨⟨(axes.map Axis.stride).toArray, by simp⟩⟩⟩

/-- Apply a slicing request that is to leave `m` dimensions. The result is the new layout and the
distance of its first element from the old one's. -/
def slice (l : Layout n) (entries : List Slice) (m : Nat) : Except Error (Layout m × Int) :=
  let taken := entries.countP Slice.takesAxis
  if n < taken then .error (.invalidSlice n (.tooManyEntries taken n))
  else do
    let (kept, distance) ← Slice.onAxes 0 entries l.axes
    if h : kept.length = m then return (h ▸ ofAxes kept, distance)
    else throw (.rankMismatch m kept.length)

end Layout

end Strided
