import Strided.Error

/-! Execution settings shared by every launch. -/

set_option autoImplicit false

namespace Strided

structure ExecConfig where
  /-- Lanes per block for launches over one dimension. -/
  block1d : UInt32 := 256
  /-- Tile width along dimension 0 for two dimensions and more. -/
  blockX : UInt32 := 16
  /-- Tile height along dimension 1 for two dimensions and more. -/
  blockY : UInt32 := 16
  /-- Lanes per block where the index space is walked as a line. -/
  blockLinear : UInt32 := 256
  /-- The most blocks of a walk along a line; lanes loop over the rest. -/
  maxLinearBlocks : UInt32 := 65535
  /-- Always walk the index space as a line. -/
  forceLinear : Bool := false
  /-- Wait for every device launch to finish before returning. -/
  syncAfterLaunch : Bool := false
  /-- Workers of the `threads` space. -/
  numThreads : Nat
  /-- Compile device kernels with fast math. -/
  fastMath : Bool := false
  /-- Where compiled kernels are written, if anywhere. -/
  kernelCacheDir : Option String := none
  /-- Loaded kernels kept per device. -/
  maxCachedKernels : Nat := 128
  deriving DecidableEq, Repr

namespace ExecConfig

def maxLanes : Nat := 1024

/-- The settings that must not be zero, by name, in the order in which they are checked. -/
def counts (c : ExecConfig) : List (String × Nat) :=
  [("num_threads", c.numThreads), ("block_1d", c.block1d.toNat), ("block_x", c.blockX.toNat),
    ("block_y", c.blockY.toNat), ("block_linear", c.blockLinear.toNat),
    ("max_linear_blocks", c.maxLinearBlocks.toNat)]

/-- No block holds more lanes than a device allows. -/
def BlocksFit (c : ExecConfig) : Prop :=
  c.blockX.toNat * c.blockY.toNat ≤ maxLanes ∧ c.block1d.toNat ≤ maxLanes ∧
    c.blockLinear.toNat ≤ maxLanes

instance (c : ExecConfig) : Decidable c.BlocksFit :=
  inferInstanceAs (Decidable (_ ∧ _))

def validate (c : ExecConfig) : Except Error Unit :=
  match c.counts.find? (·.2 = 0) with
  | some (name, _) => .error (.refused (.settingTooSmall name))
  | none => if c.BlocksFit then .ok () else .error (.refused .blockTooLarge)

/-- Put a configuration in force. This can be done once. -/
def install (inForce : Option ExecConfig) (c : ExecConfig) : Except Error ExecConfig := do
  c.validate
  match inForce with
  | some _ => throw (.refused .alreadyConfigured)
  | none => return c

end ExecConfig

end Strided
