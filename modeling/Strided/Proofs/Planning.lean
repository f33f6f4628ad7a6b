import Strided.LaunchPlan

/-! The plans that there are for a shape.

Under valid settings every shape has a plan, and it is one of three: tiles of a row, tiles of the
first two dimensions, or a walk along a line where tiles do not fit. Later facts about plans are
read off these three and never off the planning itself.
-/

set_option autoImplicit false

namespace Strided

/-- Every setting that counts something is positive, and no block is too large. -/
structure ExecConfig.Valid (c : ExecConfig) : Prop where
  numThreads : 0 < c.numThreads
  block1d : 0 < c.block1d.toNat
  blockX : 0 < c.blockX.toNat
  blockY : 0 < c.blockY.toNat
  blockLinear : 0 < c.blockLinear.toNat
  maxLinearBlocks : 0 < c.maxLinearBlocks.toNat
  blocksFit : c.BlocksFit

theorem ExecConfig.validate_eq_ok_iff {c : ExecConfig} : c.validate = .ok () ↔ c.Valid := by
  have counted : c.counts.find? (·.2 = 0) = none ↔ ∀ x ∈ c.counts, x.2 ≠ 0 := by
    simp [List.find?_eq_none]
  unfold validate
  constructor
  · intro ok
    split at ok
    · cases ok
    · rename_i none
      have positive := counted.1 none
      simp only [counts, List.forall_mem_cons] at positive
      obtain ⟨h₀, h₁, h₂, h₃, h₄, h₅, -⟩ := positive
      split at ok
      · exact ⟨Nat.pos_of_ne_zero h₀, Nat.pos_of_ne_zero h₁, Nat.pos_of_ne_zero h₂,
          Nat.pos_of_ne_zero h₃, Nat.pos_of_ne_zero h₄, Nat.pos_of_ne_zero h₅, ‹_›⟩
      · cases ok
  · intro valid
    obtain ⟨h₀, h₁, h₂, h₃, h₄, h₅, fit⟩ := valid
    have none : c.counts.find? (·.2 = 0) = none := by
      rw [counted]
      simp only [counts, List.forall_mem_cons]
      refine ⟨?_, ?_, ?_, ?_, ?_, ?_, by simp⟩ <;> omega
    rw [none]
    exact if_pos fit

namespace LaunchPlan

variable {n : Nat}

/-- The number of pieces of a positive size that cover a length. -/
def pieces (length size : Nat) : Nat :=
  (length + size - 1) / size

theorem pieces?_eq {length size : Nat} (positive : 0 < size) :
    pieces? length size = some (pieces length size) :=
  if_neg (Nat.ne_of_gt positive)

-- A piece belongs to the cover when it begins before the end.
theorem lt_pieces_iff {k length size : Nat} (positive : 0 < size) :
    k < pieces length size ↔ k * size < length := by
  rw [pieces, Nat.lt_iff_add_one_le, Nat.le_div_iff_mul_le positive, Nat.add_mul]
  omega

theorem div_lt_pieces {i length size : Nat} (positive : 0 < size) (inside : i < length) :
    i / size < pieces length size := by
  rw [lt_pieces_iff positive]
  exact Nat.lt_of_le_of_lt (Nat.div_mul_le_self i size) inside

/-- The plans for a shape, one constructor for each way of walking it. -/
inductive Planned (s : Shape n) (c : ExecConfig) : LaunchPlan n → Prop where
  | line :
    Planned s c {
      strategy := .linear
      shape := s
      grid := .ofNats (min (pieces s.size c.blockLinear.toNat) c.maxLinearBlocks.toNat) 1 1
      block := ⟨c.blockLinear, 1, 1⟩ }
  | row {e : Nat} (extents : s.toList = [e]) (filled : s.size ≠ 0)
    (boundX : pieces e c.block1d.toNat ≤ maxGridX) :
    Planned s c {
      strategy := .perAxis
      shape := s
      grid := .ofNats (pieces e c.block1d.toNat) 1 1
      block := ⟨c.block1d, 1, 1⟩ }
  | tiles {e₀ e₁ : Nat} {outer : List Nat} (extents : s.toList = e₀ :: e₁ :: outer)
    (filled : s.size ≠ 0) (boundX : pieces e₀ c.blockX.toNat ≤ maxGridX)
    (boundY : pieces e₁ c.blockY.toNat ≤ maxGridYZ) (boundZ : Radix.size outer ≤ maxGridYZ) :
    Planned s c {
      strategy := if n ≤ 3 then .perAxis else .outerLinearized
      shape := s
      grid := .ofNats (pieces e₀ c.blockX.toNat) (pieces e₁ c.blockY.toNat) (Radix.size outer)
      block := ⟨c.blockX, c.blockY, 1⟩ }

theorem linear?_eq {c : ExecConfig} (valid : c.Valid) (s : Shape n) :
    ∃ p, linear? s c = some p ∧ Planned s c p := by
  refine ⟨_, ?_, .line⟩
  rw [linear?, pieces?_eq valid.blockLinear]
  rfl

theorem exists_planned {c : ExecConfig} (valid : c.Valid) (s : Shape n) :
    ∃ p, ofShape? s c = some p ∧ Planned s c p := by
  unfold ofShape?
  split
  · exact linear?_eq valid s
  · rename_i tiled
    have filled : s.size ≠ 0 := fun empty => tiled (Or.inr (Or.inr empty))
    split
    · exact linear?_eq valid s
    · rename_i e extents
      simp only [pieces?_eq valid.block1d, Option.bind_eq_bind, Option.bind_some]
      split
      · exact linear?_eq valid s
      · rename_i boundX
        exact ⟨_, rfl, .row extents filled (by omega)⟩
    · rename_i e₀ e₁ outer extents
      simp only [pieces?_eq valid.blockX, pieces?_eq valid.blockY, Option.bind_eq_bind,
        Option.bind_some]
      split
      · exact linear?_eq valid s
      · rename_i bounds
        exact ⟨_, rfl, .tiles extents filled (by omega) (by omega) (by omega)⟩

theorem Planned.shape_eq {s : Shape n} {c : ExecConfig} {p : LaunchPlan n}
    (planned : Planned s c p) : p.shape = s := by
  cases planned <;> rfl

end LaunchPlan

end Strided
