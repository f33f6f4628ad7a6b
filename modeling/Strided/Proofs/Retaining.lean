import Strided.Numerics.Standard
import Strided.Proofs.MovedFrom

/-! Shapes that last, over a whole run of commands.

Whether a tensor has a shape of its own is told from its extents, and one with an extent other than
0 has. An assignment checks the shape of the expression against it and never replaces it, even if
the tensor has no elements. A tensor whose extents are all 0 is taken for one that was never given a
shape, so it keeps them up to the next assignment only.
-/

set_option autoImplicit false

namespace Strided

variable {t : DType} {n : Nat}

namespace Command

/-- The tensor of the name is given a length, and not by an assignment. -/
def Resizes (name : String) : Command → Prop
  | resize k _ | resizeDiscard k _ | cloneFrom k _ => k = name
  | _ => False

def Assigns (name : String) : Command → Prop
  | assign target _ => target = ⟨name, none⟩
  | _ => False

theorem revives_iff {command : Command} {name : String} :
    command.Revives name ↔ command.Assigns name ∨ command.Resizes name := by
  cases command <;> simp [Revives, Assigns, Resizes]

end Command

namespace Event

/-- The name is from now on that of another tensor, or its tensor is given a length, and not by an
assignment. -/
def Reshapes (name : String) (event : Event) : Prop :=
  event.2 = .ok () ∧
    (event.1.Takes name ∨ event.1.Rebinds name ∨ event.1.Resizes name)

end Event

namespace Tensor

variable {c : ExecConfig} {x : Tensor t n} {e : Expr n t} {m : Memory}

end Tensor

namespace Workspace

variable {w w' : Workspace} {c : ExecConfig} {name : String}

section
variable {x : Tensor t n} (found : w.tensor? name = some ⟨x⟩)
include found

theorem Effect.keeps {command : Command} {r : Except Failure Unit × Workspace}
    (effect : w.Effect command r) (unassigned : ¬ (r.1 = .ok () ∧ command.Assigns name))
    (kept : ¬ Event.Reshapes name (command, r.1)) : r.2.tensor? name = some ⟨x⟩ := by
  cases effect with
  | failed same | within _ _ same => exact (congrFun same name).trans found
  | @placed _ k _ _ renewed places =>
    have other : name ≠ k := by
      rintro rfl
      rcases (renewed name).2 rfl with revived | rebound
      · rcases Command.revives_iff.1 revived with assigned | resized
        · exact unassigned ⟨rfl, assigned⟩
        · exact kept ⟨rfl, .inr (.inr resized)⟩
      · exact kept ⟨rfl, .inr (.inl rebound)⟩
    obtain ⟨_, _, _, _, rfl⟩ := places
    exact (if_neg other).trans found
  | @taken k source y =>
    have other : name ≠ k := fun same => kept ⟨rfl, .inr (.inl same.symm)⟩
    have apart : name ≠ source := fun same => kept ⟨rfl, .inl ⟨same.symm, other.symm⟩⟩
    exact (if_neg other).trans ((if_neg apart).trans found)
  | dropped k =>
    have other : name ≠ k := fun same => kept ⟨rfl, .inr (.inl same.symm)⟩
    exact (if_neg other).trans found

variable (shaped : ¬ x.Shapeless)
include shaped

end

section
variable {x : Tensor t n} (found : w.tensor? name = some ⟨x⟩)
include found

end

end Workspace

end Strided
