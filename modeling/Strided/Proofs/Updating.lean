import Strided.Numerics.Standard
import Strided.Proofs.Transferring
import Strided.Proofs.Writing

/-! Arrays that are combined with the value of an expression, element by element.

An update evaluates one expression, in which the array itself is the first operand. What else there
is decides whether this succeeds: it has to stretch to the shape of the array, which therefore
neither stretches nor takes another shape. The array is read while it is written, each element for
its own index only, so that every new element comes from the one that was there before.
-/

set_option autoImplicit false

namespace Strided

variable {t : DType} {n : Nat}

-- Narrowing goes step by step: what stretches in the first step is read at 0 after the second one.
theorem Shape.narrow_narrow {p s target : Shape n} (below : p.Stretches s)
    (fits : s.Stretches target) (i : Index n) :
    p.narrow s (s.narrow target i) = p.narrow target i := by
  ext d bound
  have first := below ⟨d, bound⟩
  have second := fits ⟨d, bound⟩
  change (p.narrow s (s.narrow target i)).get ⟨d, bound⟩ = (p.narrow target i).get ⟨d, bound⟩
  rw [get_narrow, get_narrow, get_narrow]
  split_ifs <;> omega

namespace Term

/-- No element of an array of the expression lies in a cell of the target. -/
def Apart (e : Expr n t) (target : Span t n) : Prop :=
  ∀ a : Operand t n, ⟨t, .array a⟩ ∈ e.leaves → a.Live → a.span.Apart target

section
variable {e : Expr n t} {s target : Shape n}

-- An expression that stretches has at an index its own value at the narrowed index.
theorem eval_narrow [Numerics] (joined : e.shape = .ok s) (fits : s.Stretches target) (m : Memory)
    (i : Index n) :
    e.eval (Leaf.valueAt m target i) = e.eval (Leaf.valueAt m s (s.narrow target i)) := by
  apply eval_congr
  rintro ⟨u, a⟩ member
  cases a with
  | scalar v => rfl
  | array a =>
    have below : a.span.shape.Stretches s :=
      stretches_of_mem_leaves joined (Shape.Stretches.refl s) member
    rw [Leaf.valueAt, Leaf.valueAt, Shape.narrow_narrow below fits]

theorem Apart.elementwise {target : Span t n} (apart : e.Apart target)
    (accepts : target.Accepts e) : (e.lower target.shape).Elementwise target := by
  intro i j hi hj read
  obtain ⟨a, member, same⟩ := mem_reads_lower.1 read
  have below : a.span.shape.Stretches target.shape :=
    accepts.fits _ (List.mem_map_of_mem member)
  have within := Shape.contains_narrow below hi
  exact absurd same.symm (apart a member (accepts.live _ member) _ j within hj)

end

end Term

namespace Span

variable {c : ExecConfig} {s : Span t n} {e : Expr n t} {m m' : Memory}

variable [Numerics]

-- The check of the expression with the window in it comes to that of the expression alone.
theorem exists_update_iff (valid : c.Valid) (op : BinaryOp) :
    (∃ m', s.update c op e m = .ok m') ↔ s.Accepts e := by
  rw [← accepts_update_iff op]
  exact ⟨fun ⟨_, ok⟩ => accepts_of_assign ok, fun accepts => ⟨_, accepts.assign valid m⟩⟩

theorem update_of_accepts (valid : c.Valid) (accepts : s.Accepts e) (op : BinaryOp) :
    s.update c op e m =
      .ok (launch c s ((Term.binary op (.leaf (.array (.window s))) e).lower s.shape) m) :=
  ((accepts_update_iff op).2 accepts).assign valid m

/-- Every element of the window has been combined with the value of an expression of shape `p`, as
it was before, and every other cell has what it had. -/
structure Updated (s : Span t n) (op : BinaryOp) (e : Expr n t) (p : Shape n) (m m' : Memory) :
    Prop where
  value : ∀ i, s.shape.Contains i → ∃ old, m.read? t (s.cell i) = some old ∧
    m'.read? t (s.cell i) =
      some (op.apply old (e.eval (Leaf.valueAt m p (p.narrow s.shape i))))
  frame : ∀ u a, (u = t → ∀ i, s.shape.Contains i → a ≠ s.cell i) → m'.read? u a = m.read? u a

theorem updated_update (valid : c.Valid) (backed : s.Backed m) (injective : s.layout.Injective)
    (apart : e.Apart s) {op : BinaryOp} {p : Shape n} (joined : e.shape = .ok p)
    (ok : s.update c op e m = .ok m') : s.Updated op e p m m' := by
  have accepts := (exists_update_iff valid op).1 ⟨m', ok⟩
  obtain ⟨q, same, fits, -⟩ := accepts_iff.1 accepts
  obtain rfl := Except.ok.inj (joined.symm.trans same)
  have fits := Shape.broadcastsTo_eq_ok_iff.1 fits
  obtain rfl := Except.ok.inj (ok.symm.trans (update_of_accepts valid accepts op))
  have elementwise := elementwise_update injective (apart.elementwise accepts) op
  refine ⟨fun i inside => ⟨s.read m i, backed.read?_cell inside, ?_⟩, fun u a outside => ?_⟩
  · rw [read?_launch valid injective backed elementwise inside, Term.eval_lower, Term.eval,
      Term.eval, valueAt_self, Term.eval_narrow joined fits]
  · exact read?_launch_of_ne valid outside

end Span

namespace Operand

theorem update_of_live [Numerics] {c : ExecConfig} {op : BinaryOp} {target : Operand t n}
    {e : Expr n t} {m : Memory} (live : target.Live) :
    target.update c op e m = target.span.update c op e m := by
  cases target with
  | window s => rfl
  | tensor x =>
    have viewed : x.view = .ok x.span := view_of_live live
    rw [update, Tensor.update, viewed]
    rfl

end Operand

theorem Workspace.run_update [Numerics] {w : Workspace} {c : ExecConfig} {op : BinaryOp}
    {place : Target} {target : Operand t n} {e : Term (Reference n) t} {r : Expr n t × Memory}
    (found : w.operand t n place = .ok target) (resolved : w.expr c e = .ok r) :
    w.run c (.update op place e) =
      w.settle (w.withMemory (target.update c op r.1 r.2)) := by
  have done : w.update c op place e = w.withMemory (target.update c op r.1 r.2) := by
    rw [update, found, resolved]
    cases target <;> rfl
  rw [run, done]

/-- An array can be combined with exactly what stretches to its shape and lies in its space. Then
the operation is applied at every index to the element that was there and to the value of the
expression there; the array has the same place and shape. A failure leaves everything as it was. -/
theorem Operand.update_exact [Numerics] {c : ExecConfig} (valid : c.validate = .ok ())
    {target : Operand t n} {e : Expr n t} {m : Memory} (live : target.Live)
    (backed : target.span.Backed m) (injective : target.span.layout.Injective)
    (apart : e.Apart target.span) (op : BinaryOp) :
    ((∃ m', target.update c op e m = .ok m') ↔
        ∃ p, e.shape = .ok p ∧ p.broadcastsTo target.span.shape = .ok () ∧
          e.LivesIn target.span.space) ∧
      (∀ p m', e.shape = .ok p → target.update c op e m = .ok m' →
        target.span.Updated op e p m m') ∧
      ∀ (w : Workspace) (place : Target) (e' : Term (Reference n) t) result w',
        w.operand t n place = .ok target → w.expr c e' = .ok (e, m) →
          w.run c (.update op place e') = (result, w') →
            w'.tensor? = w.tensor? ∧ w'.operand t n place = .ok target ∧
            (result = .ok () → target.update c op e m = .ok w'.memory) ∧
            ∀ fault, result = .error fault →
              w' = w ∧ ∃ cause, fault = .error cause ∧ target.update c op e m = .error cause := by
  have valid := ExecConfig.validate_eq_ok_iff.1 valid
  rw [update_of_live live]
  refine ⟨(Span.exists_update_iff valid op).trans Span.accepts_iff,
    fun p m' joined ok => Span.updated_update valid backed injective apart joined ok, ?_⟩
  intro w place e' result w' found resolved ran
  rw [Workspace.run_update found resolved, update_of_live live] at ran
  cases done : target.span.update c op e m with
  | error cause =>
    obtain ⟨rfl, rfl⟩ := Prod.mk.inj (done ▸ ran)
    refine ⟨rfl, found, nofun, fun fault failed => ⟨rfl, cause, ?_, rfl⟩⟩
    exact (Except.error.inj failed).symm
  | ok m' =>
    obtain ⟨rfl, rfl⟩ := Prod.mk.inj (done ▸ ran)
    exact ⟨rfl, found, fun _ => rfl, nofun⟩

def everyOtherOnHost : Span .i32 1 :=
  { everyOther with space := .host }

def twiceBackwards : Expr 1 .i32 :=
  .binary .mul (.leaf (.array (.window backwards))) (.leaf (.scalar (2 : Int32)))

/-- Every other one of five zeros changes, and the zeros in between stay. -/
theorem update_exact_everyOther :
    oneThread.validate = .ok () ∧ everyOtherOnHost.Backed twoBuffers ∧
      everyOtherOnHost.layout.Injective ∧ twiceBackwards.Apart everyOtherOnHost ∧
      ∃ m', (Operand.window everyOtherOnHost).update oneThread .sub twiceBackwards twoBuffers =
          .ok m' ∧
        m'.read? .i32 ⟨.buffer 1, 4⟩ = some (-20 : Int32) ∧
        m'.read? .i32 ⟨.buffer 1, 3⟩ = some (0 : Int32) := by
  have valid : oneThread.validate = .ok () := rfl
  have backed : everyOtherOnHost.Backed twoBuffers := backed_line (by decide)
  have injective : everyOtherOnHost.layout.Injective := injective_line (by decide)
  have apart : twiceBackwards.Apart everyOtherOnHost := by
    intro a member _ i j _ _ here
    rcases List.mem_cons.1 member with same | other
    · cases same
      cases congrArg Address.base here
    · cases List.mem_singleton.1 other
  obtain ⟨succeeds, done, -⟩ := @Operand.update_exact _ _ _ _ valid (.window everyOtherOnHost)
    twiceBackwards twoBuffers trivial backed injective apart .sub
  have joined : twiceBackwards.shape = .ok ⟨#v[3]⟩ := rfl
  obtain ⟨m', ok⟩ := succeeds.2 ⟨_, joined, rfl, Term.checkSpace_eq_ok_iff.1 rfl⟩
  have updated := done _ m' joined ok
  refine ⟨valid, backed, injective, apart, m', ok, ?_, ?_⟩
  · obtain ⟨old, found, new⟩ := updated.value #v[2] (by decide)
    obtain rfl : old = (0 : Int32) := (Option.some.inj found).symm
    exact new.trans rfl
  · refine (updated.frame .i32 _ fun _ i _ here => ?_).trans rfl
    have cells : (3 : Int) = 0 + i.get 0 * 2 := congrArg Address.cell (here.trans (cell_line i))
    omega

end Strided
