import Strided.ExecConfig
import Strided.Shape.Traversal

/-! Mapping an index space onto a grid of blocks, each a box of lanes.

One dimension is cut into blocks along the grid's first axis. From two dimensions on, tiles cover
dimensions 0 and 1 and the grid's third axis counts through the others. Where neither fits a
device, the lanes of a capped grid stride along the column-major order.
-/

set_option autoImplicit false

namespace Strided

inductive LaunchStrategy where
  /-- One grid axis per dimension, for ranks 1 to 3. -/
  | perAxis
  /-- Dimensions 0 and 1 on the first two grid axes, all others on the third, for ranks 4 to 6. -/
  | outerLinearized
  /-- Lanes stride along the column-major order. -/
  | linear
  deriving DecidableEq, Repr

def LaunchStrategy.name : LaunchStrategy → String
  | perAxis => "PerAxis"
  | outerLinearized => "OuterLinearized"
  | linear => "Linear"

/-- An extent or a position along each axis of a grid or a block. -/
structure Dim3 where
  x : UInt32
  y : UInt32
  z : UInt32
  deriving DecidableEq, Repr

namespace Dim3

def ofNats (x y z : Nat) : Dim3 :=
  ⟨.ofNat x, .ofNat y, .ofNat z⟩

def toList (v : Dim3) : List Nat :=
  [v.x.toNat, v.y.toNat, v.z.toNat]

def volume (v : Dim3) : Nat :=
  v.x.toNat * v.y.toNat * v.z.toNat

def text (v : Dim3) : String :=
  Text.bracketed (v.toList.map toString)

end Dim3

/-- How the indices of a shape are dealt out to the lanes of a grid. -/
structure LaunchPlan (n : Nat) where
  strategy : LaunchStrategy
  shape : Shape n
  grid : Dim3
  block : Dim3
  deriving DecidableEq

namespace LaunchPlan

variable {n : Nat}

def maxGridX : Nat := 2147483647

/-- The most blocks along a grid's second and third axes. -/
def maxGridYZ : Nat := 65535

/-- The highest rank that is not walked as a line. -/
def maxTiledRank : Nat := 6

/-- The number of pieces of a size that cover a length; pieces of size 0 cover nothing. -/
def pieces? (length size : Nat) : Option Nat :=
  if size = 0 then none else some ((length + size - 1) / size)

/-- A walk along the column-major order. -/
def linear? (s : Shape n) (c : ExecConfig) : Option (LaunchPlan n) := do
  let blocks ← pieces? s.size c.blockLinear.toNat
  return {
    strategy := .linear
    shape := s
    grid := .ofNats (min blocks c.maxLinearBlocks.toNat) 1 1
    block := ⟨c.blockLinear, 1, 1⟩ }

/-- The plan for a shape; there is none if a block in use has no lanes. -/
def ofShape? (s : Shape n) (c : ExecConfig) : Option (LaunchPlan n) :=
  if c.forceLinear ∨ maxTiledRank < n ∨ s.size = 0 then linear? s c
  else
    match s.toList with
    | [] => linear? s c
    | [e] => do
      let gx ← pieces? e c.block1d.toNat
      if maxGridX < gx then linear? s c
      else
        return {
          strategy := .perAxis
          shape := s
          grid := .ofNats gx 1 1
          block := ⟨c.block1d, 1, 1⟩ }
    | e₀ :: e₁ :: outer => do
      let gx ← pieces? e₀ c.blockX.toNat
      let gy ← pieces? e₁ c.blockY.toNat
      let gz := Radix.size outer
      if maxGridX < gx ∨ maxGridYZ < gy ∨ maxGridYZ < gz then linear? s c
      else
        return {
          strategy := if n ≤ 3 then .perAxis else .outerLinearized
          shape := s
          grid := .ofNats gx gy gz
          block := ⟨c.blockX, c.blockY, 1⟩ }

def blockCount (p : LaunchPlan n) : Nat :=
  p.grid.volume

/-- The grid position of the `k`-th block, the first axis running fastest. A grid without blocks
along one of its first two axes has no positions. -/
def blockCoords? (p : LaunchPlan n) (k : Nat) : Option Dim3 :=
  let gx := p.grid.x.toNat
  let gy := p.grid.y.toNat
  if gx = 0 ∨ gy = 0 then none
  else some (.ofNats (k % gx) (k / gx % gy) (k / (gx * gy)))

/-- The numbers below `limit` that lie whole strides after `first`. -/
def stridesBelow (limit first stride : Nat) : List Nat :=
  (List.range ((limit - first + stride - 1) / stride)).map fun k => first + k * stride

/-- The components of an index in a tiled grid: one position in each of the first two dimensions
and a number that counts through the others. -/
def tileDigits (i j z : Nat) : List Nat → List Nat
  | [] => []
  | [_] => [i]
  | _ :: _ :: outer => i :: j :: Radix.digits outer z

@[simp] theorem length_tileDigits (i j z : Nat) (es : List Nat) :
    (tileDigits i j z es).length = es.length := by
  unfold tileDigits
  split <;> simp

/-- The indices that one lane of a block visits, in order. -/
def laneIndices (p : LaunchPlan n) (b : Dim3) (tx ty : Nat) : List (Index n) :=
  let i := b.x.toNat * p.block.x.toNat + tx
  let j := b.y.toNat * p.block.y.toNat + ty
  match p.strategy with
  | .linear =>
    (stridesBelow p.shape.size i (p.grid.x.toNat * p.block.x.toNat)).map p.shape.unravel
  | .perAxis | .outerLinearized =>
    let index : Index n := ⟨(tileDigits i j b.z.toNat p.shape.toList).toArray, by simp⟩
    if p.shape.Contains index then [index] else []

/-- The indices that the lanes of a block visit. Lanes follow one another with the first axis of
the block running fastest. -/
def blockIndices (p : LaunchPlan n) (b : Dim3) : List (Index n) :=
  if p.shape.size = 0 then []
  else
    (List.range p.block.y.toNat).flatMap fun ty =>
      (List.range p.block.x.toNat).flatMap fun tx => p.laneIndices b tx ty

/-- What every block of the grid visits, block after block. -/
def cover? (p : LaunchPlan n) : Option (List (List (Index n))) :=
  (List.range p.blockCount).mapM fun k => (p.blockCoords? k).map p.blockIndices

def text (p : LaunchPlan n) : String :=
  p.strategy.name ++ " over " ++ p.shape.text ++ " grid " ++ p.grid.text ++ " block " ++
    p.block.text

end LaunchPlan

end Strided
