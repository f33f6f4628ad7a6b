import Strided.Proofs.Assignment
import Strided.Proofs.Sizing
import Strided.Tensor.Calculation

/-! Operations on arrays whose sizes and strides are words.

An operation has a size to calculate, and strides where it makes an array. If the shape that these
are of is addressable, the operation comes in every build to what it comes to without a bound.
-/

set_option autoImplicit false

namespace Strided

open Calculation (Settles settles_pure settles_run_except)

variable {t : DType} {n : Nat}

namespace Tensor

variable {c : ExecConfig} {space : Space} {s : Shape n} {m : Memory}

section
variable (addressable : s.Addressable)
include addressable

theorem settles_emptySteps :
    (emptySteps space s m : Calculation (Tensor t n × Memory)).Settles (empty space s m) :=
  addressable.contiguousSteps.bind (addressable.sizeSteps.bind (settles_pure _))

theorem settles_resizeDiscardSteps (x : Tensor t n) :
    (x.resizeDiscardSteps s m).Settles (x.resizeDiscard s m) :=
  addressable.sizeSteps.bind (addressable.contiguousSteps.bind (settles_pure _))

theorem settles_ofListSteps (data : List t.Elem) :
    (ofListSteps space s data m).run.Settles (ofList space s data m) :=
  addressable.sizeSteps.run_lift_bind (Settles.ite (c := ExceptT.run _) (d := ExceptT.run _)
    (fun _ => addressable.contiguousSteps.run_lift_bind (settles_pure _))
    fun _ => settles_pure _)

end

theorem settles_adoptSteps {x : Tensor t n} (addressable : (x.shapeFor s).Addressable) :
    (x.adoptSteps s m).Settles (x.adopt s m) := by
  unfold adoptSteps
  split
  · rename_i adopts
    have own : x.shapeFor s = s := by
      rw [← shape_adopt x s m, adopt, if_pos adopts]
      rfl
    rw [adopt, if_pos adopts]
    exact settles_resizeDiscardSteps (own ▸ addressable) x
  · rename_i keeps
    rw [adopt, if_neg keeps]
    exact settles_pure _

theorem settles_ofSpanSteps [Numerics] {s : Span t n} (addressable : s.shape.Addressable) :
    (ofSpanSteps c s m).Settles (ofSpan c s m) :=
  (settles_emptySteps addressable).bind (addressable.sizeSteps.bind (Settles.ite
    (fun _ => settles_pure _) fun _ => (Layout.isContiguousSteps_of_addressable addressable).bind
      (Settles.ite (fun _ => settles_pure _) fun _ => settles_pure _)))

end Tensor

theorem Span.settles_cellSteps {s : Span t n} {i : Index n}
    (placed : s.shape.Contains i → (s.layout.offsetSteps i).Settles (s.layout.offset i)) :
    (s.cellSteps i).run.Settles (s.cell? i) := by
  unfold cellSteps cell?
  split
  · exact (placed ‹_›).run_lift_bind (settles_pure _)
  · exact settles_pure _

theorem Span.settles_toListSteps [Numerics] {c : ExecConfig} {s : Span t n} {m : Memory}
    (addressable : s.shape.Addressable) : (s.toListSteps c m).Settles (s.toList c m) :=
  addressable.sizeSteps.bind (Settles.ite (fun _ => settles_pure _) fun _ =>
    (Layout.isContiguousSteps_of_addressable addressable).bind (Settles.ite
      (fun _ => settles_pure _) fun _ =>
        (Tensor.settles_ofSpanSteps addressable).bind (settles_pure _)))

-- The size is looked at only after the expression is known to stretch to the window.
theorem Span.settles_assignSteps [Numerics] {c : ExecConfig} {target : Span t n} {e : Expr n t}
    {m : Memory}
    (small : ∀ s, e.shape = .ok s → s.Stretches target.shape → target.shape.Addressable) :
    (target.assignSteps c e m).run.Settles (target.assign c e m) :=
  (settles_run_except _).run_bind fun s joined => (settles_run_except _).run_bind fun _ _ =>
    (settles_run_except _).run_bind fun _ stretches =>
      (small s joined (Shape.broadcastsTo_eq_ok_iff.1 stretches)).sizeSteps.run_lift_bind
        (settles_pure _)

theorem Tensor.shapeless_iff_unshaped {x : Tensor t n} :
    x.Shapeless ↔ (x.isMovedFrom || x.isUnshaped) = true := by
  simp [Shapeless, isUnshaped, Nat.pos_iff_ne_zero]

-- Nothing is calculated for an expression that is refused.
theorem Tensor.settles_assignSteps [Numerics] {c : ExecConfig} {x : Tensor t n} {e : Expr n t}
    {m : Memory} (small : ∀ s, x.Accepts e s → (x.shapeFor s).Addressable) :
    (x.assignSteps c e m).Settles (x.assign c e m) := by
  unfold assignSteps assign
  cases joined : e.shape with
  | error fault => exact settles_pure _
  | ok s =>
    cases enters : e.checkSpace x.space with
    | error fault => exact settles_pure _
    | ok done =>
      have own : (x.adopt s m).1.span.shape = x.shapeFor s := shape_adopt x s m
      obtain ⟨adopted, evaluated⟩ : (x.adoptSteps s m).Settles (x.adopt s m) ∧
          ((x.adopt s m).1.span.assignSteps c e (x.adopt s m).2).run.Settles
            ((x.adopt s m).1.span.assign c e (x.adopt s m).2) := by
        by_cases fits : x.Shapeless ∨ s.Stretches x.shape
        · obtain ⟨live, join⟩ := Term.shape_eq_ok_iff.1 joined
          have addressable := small s ⟨live, join, Term.checkSpace_eq_ok_iff.1 enters, fits⟩
          exact ⟨settles_adoptSteps addressable,
            Span.settles_assignSteps fun _ _ _ => own ▸ addressable⟩
        · obtain ⟨shaped, misfit⟩ := not_or.1 fits
          have keeps : ¬ (x.isMovedFrom || x.isUnshaped && decide (x.shape ≠ s)) = true := by
            have := shapeless_iff_unshaped.not.1 shaped
            simp_all
          have shape : x.shapeFor s = x.shape := if_neg shaped
          refine ⟨?_, Span.settles_assignSteps fun q same stretches => ?_⟩
          · rw [adoptSteps, if_neg keeps, adopt, if_neg keeps]
            exact settles_pure _
          · rw [own, shape] at stretches
            exact absurd (Except.ok.inj (same.symm.trans joined) ▸ stretches) misfit
      dsimp only
      clear own small
      generalize x.adopt s m = left at adopted evaluated ⊢
      obtain ⟨y, m₁⟩ := left
      refine adopted.bind (evaluated.bind ?_)
      dsimp only
      cases y.span.assign c e m₁ <;> exact settles_pure _

-- A new tensor has no extent other than 0 before it takes the shape of the expression.
theorem Tensor.settles_ofExprSteps [Numerics] {c : ExecConfig} {space : Space} {e : Expr n t}
    {s : Shape n} {m : Memory} (joined : e.shape = .ok s) (addressable : s.Addressable) :
    (ofExprSteps c space e m).run.Settles (ofExpr c space e m) := by
  have fresh : (emptySteps space .zeros m : Calculation (Tensor t n × Memory)).Settles
      (empty space .zeros m) := settles_emptySteps Shape.addressable_zeros
  have blank : (empty (t := t) space (.zeros : Shape n) m).1.shape = .zeros := rfl
  rw [ofExpr, new]
  generalize empty (t := t) space (.zeros : Shape n) m = left at fresh blank ⊢
  obtain ⟨x, m₁⟩ := left
  have small (q : Shape n) (accepts : x.Accepts e q) : (x.shapeFor q).Addressable := by
    have same := Term.shape_eq_ok_iff.2 ⟨accepts.live, accepts.join⟩
    obtain rfl := Except.ok.inj (joined.symm.trans same)
    unfold shapeFor
    split
    · exact addressable
    · exact blank ▸ Shape.addressable_zeros
  refine fresh.run_lift_bind ((settles_assignSteps small).run_lift_bind ?_)
  dsimp only
  rcases x.assign c e m₁ with ⟨_ | _, _, _⟩ <;> exact settles_pure _

end Strided
