import Strided.Numerics.Standard
import Strided.Proofs.Fitting

/-! What an assignment does.

The only numbers that are calculated are the size and the strides of the shape that the tensor ends
up with, and only for an expression that it accepts. A shape whose extents are words has strides
that are none if extents before a 0 multiply to too much.
-/

set_option autoImplicit false

namespace Strided

variable {t : DType} {n : Nat}

/-- An assignment succeeds for exactly what the tensor accepts, and then has done what it promises;
a refusal has a reason, and leaves the tensor and the memory as they were. -/
theorem Tensor.assign_exact [Numerics] {c : ExecConfig} (valid : c.validate = .ok ())
    {x : Tensor t n} {e : Expr n t} {m : Memory} (sound : x.Sound m) (holds : e.Holds m)
    (avoids : e.Avoids x.storage.base) (small : ∀ s, x.Accepts e s → (x.shapeFor s).Addressable) :
    ∃ result y m', (x.assignSteps c e m).Settles (result, y, m') ∧
      (result = .ok () ↔ ∃ s, x.Accepts e s) ∧
      (∀ s, x.Accepts e s → x.Assigned e s m y m') ∧
      (∀ fault, result = .error fault ↔ x.Refuses e fault) ∧
      ∀ fault, result = .error fault → y = x ∧ m' = m := by
  obtain ⟨succeeds, done, fails, leaves⟩ :=
    assign_unbounded (ExecConfig.validate_eq_ok_iff.1 valid) sound holds avoids
  refine ⟨(x.assign c e m).1, (x.assign c e m).2.1, (x.assign c e m).2.2,
    settles_assignSteps small, succeeds, fun s accepts => ?_, fails,
    fun fault failed => Prod.mk.inj (leaves fault failed)⟩
  obtain ⟨y, m', ok, assigned⟩ := done s accepts
  rw [ok]
  exact assigned

theorem assign_exact_columnLessNarrow :
    oneThread.validate = .ok () ∧ newMatrix.Sound threeNumbers ∧
      columnLessNarrow.Holds threeNumbers ∧ columnLessNarrow.Avoids newMatrix.storage.base ∧
      (∀ s, newMatrix.Accepts columnLessNarrow s → (newMatrix.shapeFor s).Addressable) ∧
      ∃ y m', (newMatrix.assignSteps oneThread columnLessNarrow threeNumbers).Settles
          (.ok (), y, m') ∧
        y.shape = ⟨#v[3, 1]⟩ ∧
        m'.read? .i32 (y.span.cell #v[2, 0]) = some (10 - 249 : Int32) := by
  have valid : oneThread.validate = .ok () := rfl
  have sound : newMatrix.Sound threeNumbers := ⟨rfl, fun _ => rfl, by decide, by decide⟩
  have column {u : DType} {a : Operand u 2} (member : ⟨u, .array a⟩ ∈ columnLessNarrow.leaves) :
      (⟨u, a⟩ : (u : DType) × Operand u 2) = ⟨.i32, .window reversedColumn⟩ := by
    rcases List.mem_cons.1 member with same | other
    · cases same
      rfl
    · cases List.mem_singleton.1 other
  have holds : columnLessNarrow.Holds threeNumbers := by
    intro u a member _
    cases column member
    exact backed_reversedColumn
  have avoids : columnLessNarrow.Avoids newMatrix.storage.base := by
    intro a member i _ here
    cases column member
    cases here
  have same : columnLessNarrow.shape = .ok ⟨#v[3, 1]⟩ := rfl
  have accepts : newMatrix.Accepts columnLessNarrow ⟨#v[3, 1]⟩ := by
    obtain ⟨live, join⟩ := Term.shape_eq_ok_iff.1 same
    refine ⟨live, join, Term.checkSpace_eq_ok_iff.1 rfl, Or.inl (Or.inr ⟨by decide, rfl⟩)⟩
  have small (s : Shape 2) (accepts : newMatrix.Accepts columnLessNarrow s) :
      (newMatrix.shapeFor s).Addressable := by
    have joined := Term.shape_eq_ok_iff.2 ⟨accepts.live, accepts.join⟩
    obtain rfl : ⟨#v[3, 1]⟩ = s := Except.ok.inj (same.symm.trans joined)
    exact Shape.addressable_of_filled (by decide) (by decide)
  obtain ⟨result, y, m', settles, succeeds, done, -, -⟩ :=
    Tensor.assign_exact valid sound holds avoids small
  obtain rfl : result = .ok () := succeeds.2 ⟨_, accepts⟩
  have assigned := done _ accepts
  have shape : y.shape = ⟨#v[3, 1]⟩ := assigned.shape
  have value := assigned.value #v[2, 0] (shape ▸ by decide)
  refine ⟨valid, sound, holds, avoids, small, y, m', settles, shape, ?_⟩
  rw [value, shape]
  rfl

def tallNothing : Span .u8 3 :=
  .adapt .host ⟨.null, 0⟩ ⟨#v[2147483648, 1, 0]⟩

def wideNothing : Span .u8 3 :=
  .adapt .host ⟨.null, 0⟩ ⟨#v[1, 4294967296, 0]⟩

-- The two stretch to 2147483648 by 4294967296 by 0: no elements, and a stride that is no word.
def nothingTwice : Expr 3 .u8 :=
  .binary .add (.leaf (.array (.window tallNothing))) (.leaf (.array (.window wideNothing)))

def newCube : Tensor .u8 3 :=
  ⟨.unshaped, .empty .host⟩

/-- One build does not get to the end, and in the other the last stride is negative. -/
theorem Tensor.assignSteps_of_nothingTwice :
    newCube.Accepts nothingTwice ⟨#v[2147483648, 4294967296, 0]⟩ ∧
      (newCube.assignSteps oneThread nothingTwice .empty).checked = none ∧
      (newCube.assignSteps oneThread nothingTwice .empty).wrapping.map (·.2.1.strides.toList) =
        some [1, 2147483648, -9223372036854775808] := by
  have joined : nothingTwice.shape = .ok ⟨#v[2147483648, 4294967296, 0]⟩ := rfl
  obtain ⟨live, join⟩ := Term.shape_eq_ok_iff.1 joined
  refine ⟨⟨live, join, Term.checkSpace_eq_ok_iff.1 rfl, Or.inl (Or.inr ⟨by decide, rfl⟩)⟩, ?_, ?_⟩
  · exact Option.isNone_iff_eq_none.1 (by decide +kernel)
  · decide +kernel

end Strided
