import Strided.Proofs.Coverage

/-! Plans and the limits of a device.

`blocks` and `lanes` count a plan's blocks and lanes without words. A plan holds exactly these
numbers, and tiles stay within all limits of a device. A walk along a line stays within them unless
its settings allow more blocks than a grid can hold along its first axis.
-/

set_option autoImplicit false

namespace Strided

/-- How many blocks a strategy lays along each axis of the grid. -/
def LaunchStrategy.blocks (c : ExecConfig) : LaunchStrategy → List Nat → List Nat
  | linear, es =>
    [min (LaunchPlan.pieces (Radix.size es) c.blockLinear.toNat) c.maxLinearBlocks.toNat, 1, 1]
  | perAxis, [e] | outerLinearized, [e] => [LaunchPlan.pieces e c.block1d.toNat, 1, 1]
  | perAxis, e₀ :: e₁ :: outer | outerLinearized, e₀ :: e₁ :: outer =>
    [LaunchPlan.pieces e₀ c.blockX.toNat, LaunchPlan.pieces e₁ c.blockY.toNat, Radix.size outer]
  | perAxis, [] | outerLinearized, [] => []

def LaunchStrategy.lanes (c : ExecConfig) : LaunchStrategy → List Nat → List Nat
  | linear, _ => [c.blockLinear.toNat, 1, 1]
  | perAxis, [_] | outerLinearized, [_] => [c.block1d.toNat, 1, 1]
  | perAxis, _ :: _ :: _ | outerLinearized, _ :: _ :: _ => [c.blockX.toNat, c.blockY.toNat, 1]
  | perAxis, [] | outerLinearized, [] => []

namespace LaunchPlan

variable {n : Nat} {s : Shape n} {c : ExecConfig} {p : LaunchPlan n}

-- No number of a plan is changed when it is made a word.
theorem Planned.toList_grid (planned : Planned s c p) :
    p.grid.toList = p.strategy.blocks c s.toList := by
  cases planned with
  | line =>
    have grid := toNat_ofNat_of_le
      (Nat.min_le_right (pieces s.size c.blockLinear.toNat) c.maxLinearBlocks.toNat)
      c.maxLinearBlocks.toNat_lt
    simp only [Dim3.toList, Dim3.ofNats, grid]
    rfl
  | row extents _ boundX =>
    have narrow := toNat_ofNat_of_le boundX (by decide)
    simp only [Dim3.toList, Dim3.ofNats, narrow, extents]
    rfl
  | tiles extents _ boundX boundY boundZ =>
    have narrowX := toNat_ofNat_of_le boundX (by decide)
    have narrowY := toNat_ofNat_of_le boundY (by decide)
    have narrowZ := toNat_ofNat_of_le boundZ (by decide)
    simp only [Dim3.toList, Dim3.ofNats, narrowX, narrowY, narrowZ, extents]
    split <;> rfl

theorem Planned.toList_block (planned : Planned s c p) :
    p.block.toList = p.strategy.lanes c s.toList := by
  cases planned with
  | line => rfl
  | row extents =>
    rw [extents]
    rfl
  | tiles extents =>
    rw [extents]
    dsimp only
    split <;> rfl

theorem Planned.volume_block (valid : c.Valid) (planned : Planned s c p) :
    1 ≤ p.block.volume ∧ p.block.volume ≤ ExecConfig.maxLanes := by
  obtain ⟨tile, row, line⟩ := valid.blocksFit
  cases planned with
  | line =>
    have volume : Dim3.volume ⟨c.blockLinear, 1, 1⟩ = c.blockLinear.toNat := by
      simp [Dim3.volume]
    rw [volume]
    exact ⟨valid.blockLinear, line⟩
  | row =>
    have volume : Dim3.volume ⟨c.block1d, 1, 1⟩ = c.block1d.toNat := by simp [Dim3.volume]
    rw [volume]
    exact ⟨valid.block1d, row⟩
  | tiles =>
    have volume : Dim3.volume ⟨c.blockX, c.blockY, 1⟩ = c.blockX.toNat * c.blockY.toNat := by
      simp [Dim3.volume]
    rw [volume]
    exact ⟨Nat.mul_pos valid.blockX valid.blockY, tile⟩

theorem Planned.grid_le (planned : Planned s c p) :
    p.grid.y.toNat ≤ maxGridYZ ∧ p.grid.z.toNat ≤ maxGridYZ := by
  cases planned with
  | line | row => simp [Dim3.ofNats, maxGridYZ]
  | tiles _ _ _ boundY boundZ =>
    have narrowY := toNat_ofNat_of_le boundY (by decide)
    have narrowZ := toNat_ofNat_of_le boundZ (by decide)
    simp only [Dim3.ofNats, narrowY, narrowZ]
    exact ⟨boundY, boundZ⟩

-- Along its first axis only the grid of a line may be too large.
theorem Planned.lt_gridX_iff (valid : c.Valid) (planned : Planned s c p) :
    maxGridX < p.grid.x.toNat ↔
      p.strategy = .linear ∧ maxGridX < c.maxLinearBlocks.toNat ∧
        maxGridX * c.blockLinear.toNat < s.size := by
  cases planned with
  | line =>
    have grid := toNat_ofNat_of_le
      (Nat.min_le_right (pieces s.size c.blockLinear.toNat) c.maxLinearBlocks.toNat)
      c.maxLinearBlocks.toNat_lt
    simp only [Dim3.ofNats, grid, true_and]
    rw [Nat.lt_min, lt_pieces_iff valid.blockLinear, and_comm]
  | row extents _ boundX =>
    have narrow := toNat_ofNat_of_le boundX (by decide)
    simp only [Dim3.ofNats, narrow, reduceCtorEq, false_and, iff_false]
    omega
  | tiles extents _ boundX =>
    have narrow := toNat_ofNat_of_le boundX (by decide)
    have tiled : (if n ≤ 3 then LaunchStrategy.perAxis else .outerLinearized) ≠ .linear := by
      split <;> simp
    simp only [Dim3.ofNats, narrow, tiled, false_and, iff_false]
    omega

/-- Under valid settings every shape has a plan, which holds the numbers that its strategy asks for
and stays within all limits; only a line of more blocks than a grid holds along its first axis, of
which the settings allow as many, goes beyond one. -/
theorem ofShape?_within_limits (s : Shape n) {c : ExecConfig} (valid : c.validate = .ok ()) :
    ∃ p, ofShape? s c = some p ∧
      p.grid.toList = p.strategy.blocks c s.toList ∧
      p.block.toList = p.strategy.lanes c s.toList ∧
      1 ≤ p.block.volume ∧ p.block.volume ≤ ExecConfig.maxLanes ∧
      p.grid.y.toNat ≤ maxGridYZ ∧ p.grid.z.toNat ≤ maxGridYZ ∧
      (maxGridX < p.grid.x.toNat ↔
        p.strategy = .linear ∧ maxGridX < c.maxLinearBlocks.toNat ∧
          maxGridX * c.blockLinear.toNat < s.size) := by
  have valid := ExecConfig.validate_eq_ok_iff.1 valid
  obtain ⟨p, found, planned⟩ := exists_planned valid s
  obtain ⟨some, few⟩ := planned.volume_block valid
  obtain ⟨boundY, boundZ⟩ := planned.grid_le
  exact ⟨p, found, planned.toList_grid, planned.toList_block, some, few, boundY, boundZ,
    planned.lt_gridX_iff valid⟩

-- Five dimensions in tiles of eight by four.
def smallTiles : ExecConfig where
  blockX := 8
  blockY := 4
  numThreads := 1

theorem ofShape?_within_limits_smallTiles :
    smallTiles.validate = .ok () ∧
      ∃ p, ofShape? (Shape.mk #v[20, 9, 2, 3, 5]) smallTiles = some p ∧
        p.grid.toList = [3, 3, 30] ∧ p.block.toList = [8, 4, 1] ∧
        p.grid.x.toNat ≤ maxGridX := by
  have valid : smallTiles.validate = .ok () := rfl
  obtain ⟨p, found, grid, block, -, -, -, -, wide⟩ :=
    ofShape?_within_limits (Shape.mk #v[20, 9, 2, 3, 5]) valid
  refine ⟨valid, p, found, ?_, ?_, Nat.not_lt.1 fun beyond => ?_⟩
  · cases found
    exact grid
  · cases found
    exact block
  · cases (wide.1 beyond).1.symm.trans (congrArg LaunchPlan.strategy (Option.some.inj found)).symm

-- A block for each element, and all the blocks that a word counts.
def manyBlocks : ExecConfig where
  block1d := 1
  blockLinear := 1
  maxLinearBlocks := 4294967295
  numThreads := 1

/-- The blocks of a row are too many for a grid, and so are those of the line that is walked
instead. -/
theorem ofShape?_beyond_limits :
    manyBlocks.validate = .ok () ∧
      ∃ p, ofShape? (Shape.mk #v[8589934592]) manyBlocks = some p ∧ p.strategy = .linear ∧
        maxGridX < p.grid.x.toNat :=
  ⟨rfl, _, rfl, rfl, by decide⟩

end LaunchPlan

end Strided
