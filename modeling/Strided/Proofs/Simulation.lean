import Strided.Proofs.Renewal
import Strided.Proofs.ValueModel

/-! Windows and expressions, next to the same windows and expressions over plain values.

A window shows values when every value that is specified is in its cell. This survives slicing,
copying and any step that only adds to memory. Two expressions with the same skeleton whose leaves
show values have one shape and pass or fail the same checks, and wherever the second has a value,
that is the value of the first.
-/

set_option autoImplicit false

namespace Strided

open Outcome

variable {t : DType} {n : Nat}

/-! Slicing looks at extents only, so it treats a window and its values alike. -/

theorem Slice.alike_onAxis (dim : Nat) {a b : Axis} (same : a.extent = b.extent) (entry : Slice) :
    Alike (fun r r' => r.1.map Axis.extent = r'.1.map Axis.extent) (entry.onAxis dim a)
      (entry.onAxis dim b) := by
  obtain ⟨extent, stride⟩ := a
  obtain ⟨_, stride'⟩ := b
  obtain rfl : extent = _ := same
  cases entry with
  | all | newAxis => exact .ok rfl
  | index position =>
    simp only [onAxis]
    split
    · exact .ok rfl
    · exact .error _
  | range start stop step =>
    simp only [onAxis]
    split
    · exact .error _
    · exact .ok rfl

theorem Slice.alike_onAxes (dim : Nat) (entries : List Slice) {axes others : List Axis}
    (same : axes.map Axis.extent = others.map Axis.extent) :
    Alike (fun r r' => r.1.map Axis.extent = r'.1.map Axis.extent) (onAxes dim entries axes)
      (onAxes dim entries others) := by
  induction entries generalizing dim axes others with
  | nil => exact .ok same
  | cons entry entries ih =>
    by_cases axis : entry = .newAxis
    · subst axis
      refine (ih dim same).bind fun r r' kept => .ok ?_
      simp only [List.map_cons, kept]
    · cases axes with
      | nil =>
        obtain rfl := List.map_eq_nil_iff.1 same.symm
        exact (Alike.of_eq rfl).imp fun _ _ equal => by rw [equal]
      | cons a axes =>
        cases others with
        | nil => cases same
        | cons b others =>
          obtain ⟨first, rest⟩ := List.cons.inj same
          rw [onAxes_cons axis, onAxes_cons axis]
          refine (alike_onAxis dim first entry).bind fun r r' head => ?_
          refine (ih (dim + 1) rest).bind fun q q' tail => .ok ?_
          obtain ⟨a, _⟩ := r
          obtain ⟨b, _⟩ := r'
          have heads : a.toList.map Axis.extent = b.toList.map Axis.extent := by
            rw [← Option.toList_map, ← Option.toList_map, head]
          simp only [List.map_append, heads, tail]

theorem Shape.eq_of_toList {s u : Shape n} (extents : s.toList = u.toList) : s = u :=
  congrArg Shape.mk (Vector.toList_inj.1 extents)

theorem Layout.toList_shape_ofAxes {m : Nat} {kept : List Axis} (rank : kept.length = m) :
    (rank ▸ ofAxes kept : Layout m).shape.toList = kept.map Axis.extent := by
  subst rank
  rfl

theorem Layout.alike_slice {l l' : Layout n} (same : l.shape = l'.shape) (entries : List Slice)
    (m : Nat) :
    Alike (fun r r' => r.1.shape = r'.1.shape) (l.slice entries m) (l'.slice entries m) := by
  unfold slice
  dsimp only
  split
  · exact .error _
  · have axes : l.axes.map Axis.extent = l'.axes.map Axis.extent := by
      rw [extents_axes, extents_axes, same]
    refine (Slice.alike_onAxes 0 entries axes).bind fun ⟨kept, near⟩ ⟨others, far⟩ extents => ?_
    have lengths : kept.length = others.length := by
      simpa using congrArg List.length extents
    by_cases rank : kept.length = m
    · have rank' := lengths.symm.trans rank
      simp only [dif_pos rank, dif_pos rank']
      refine .ok (Shape.eq_of_toList ?_)
      exact (toList_shape_ofAxes rank).trans (extents.trans (toList_shape_ofAxes rank').symm)
    · have rank' : others.length ≠ m := fun same => rank (lengths.trans same)
      simp only [dif_neg rank', lengths]
      exact .error _

/-- The elements of a window have the given values. Where no value is given an element may be
any. -/
structure Span.Shows (s : Span t n) (v : ValueWindow t n) (m : Memory) : Prop where
  shape : s.shape = v.shape
  backed : s.Backed m
  value : ∀ i, s.shape.Contains i → ∀ e, v.value i.toList = some e →
    m.read? t (s.cell i) = some e

section
variable {s : Span t n} {v : ValueWindow t n} {m m' : Memory}

theorem Span.Shows.mono (shows : s.Shows v m) (all : m.Extends m') : s.Shows v m' where
  shape := shows.shape
  backed := shows.backed.mono all
  value i inside e given := all _ _ e (shows.value i inside e given)

theorem Span.Shows.slice (shows : s.Shows v m) (entries : List Slice) (k : Nat) :
    Alike (fun s' v' => s'.Shows v' m ∧ s'.space = s.space ∧ s'.start.base = s.start.base)
      (s.slice entries k) (v.slice entries k) := by
  have alike : Alike (fun r r' => r.1.shape = r'.1.shape) (s.layout.slice entries k)
      ((Layout.contiguous v.shape).slice entries k) :=
    Layout.alike_slice shows.shape entries k
  refine alike.and_ok.bind fun r r' ⟨same, sliced, _⟩ => .ok ⟨?_, rfl, rfl⟩
  obtain ⟨layout, distance⟩ := r
  obtain ⟨-, selects⟩ := Layout.slice_selects sliced
  have select {j : Index k} (inside : layout.shape.Contains j) :
      ∃ i : Index n, i.toList = Slice.source entries v.shape.toList j.toList ∧
        s.shape.Contains i ∧
        (⟨s.space, s.start.shift distance, layout⟩ : Span t k).cell j = s.cell i := by
    obtain ⟨i, found, within, offset⟩ := selects j inside
    have shape : v.shape = s.layout.shape := shows.shape.symm
    refine ⟨i, shape ▸ found, within, ?_⟩
    rw [Span.cell, Span.cell, Address.shift_shift, offset]
  refine ⟨same, fun j inside => ?_, fun j inside e given => ?_⟩
  · obtain ⟨i, -, within, cell⟩ := select inside
    rw [cell]
    exact shows.backed i within
  · obtain ⟨i, found, within, cell⟩ := select inside
    rw [cell]
    exact shows.value i within e (found ▸ given)

end

-- A copy of a window shows the same values, in a buffer of its own.
theorem Span.Shows.copy [Numerics] {c : ExecConfig} (valid : c.Valid) {s : Span t n}
    {v : ValueWindow t n} {m : Memory} (shows : s.Shows v m) :
    (Tensor.ofSpan c s m).1.span.Shows v (Tensor.ofSpan c s m).2 := by
  have shape : (Tensor.ofSpan c s m).1.span.shape = s.shape := Tensor.shape_ofSpan c s m
  have read {i : Index n} (inside : (Tensor.ofSpan c s m).1.span.shape.Contains i) :
      (Tensor.ofSpan c s m).2.read? t ((Tensor.ofSpan c s m).1.span.cell i) =
        m.read? t (s.cell i) :=
    Tensor.read?_ofSpan valid shows.backed (shape ▸ inside)
  refine ⟨shape.trans shows.shape, fun i inside => ?_, fun i inside e given => ?_⟩
  · rw [read inside]
    exact shows.backed i (shape ▸ inside)
  · rw [read inside]
    exact shows.value i (shape ▸ inside) e given

/-- A window that shows values, in a space and within a buffer. -/
inductive AnySpan.Shows (m : Memory) (space : Space) (base : Base) :
    AnySpan t → AnyValueWindow t → Prop where
  | intro {n : Nat} {s : Span t n} {v : ValueWindow t n} (shows : s.Shows v m)
    (home : s.space = space) (inside : s.start.base = base) : Shows m space base ⟨s⟩ ⟨v⟩

theorem AnySpan.Shows.sliceAll {m : Memory} {space : Space} {base : Base} {s : AnySpan t}
    {v : AnyValueWindow t} (shows : s.Shows m space base v) (steps : List SliceStep) :
    Alike (AnySpan.Shows m space base) (s.sliceAll steps) (v.sliceAll steps) := by
  induction steps generalizing s v with
  | nil => exact .ok shows
  | cons step rest ih =>
    obtain ⟨shows, home, inside⟩ := shows
    refine (shows.slice step.entries step.rank).bind fun s' v' ⟨shows, space, base⟩ => ?_
    exact ih ⟨shows, space.trans home, base.trans inside⟩

inductive Leaf.Shows (m : Memory) : {t : DType} → Leaf n t → ValueLeaf n t → Prop where
  | scalar {t : DType} (v : t.Elem) : Shows m (.scalar v) (.scalar v)
  | moved {t : DType} {x : Tensor t n} (moved : x.isMovedFrom = true) :
    Shows m (.array (.tensor x)) (.array x.space none)
  | live {t : DType} {a : Operand t n} {v : ValueWindow t n} (holds : a.Holds m)
    (shows : a.span.Shows v m) : Shows m (.array a) (.array a.span.space (some v))

theorem Operand.Holds.live {m : Memory} {a : Operand t n} (holds : a.Holds m) : a.Live := by
  cases a with
  | tensor x => exact Tensor.Holds.live holds
  | window s => trivial

theorem Operand.Holds.mono {m m' : Memory} {a : Operand t n} (holds : a.Holds m)
    (all : m.Extends m') : a.Holds m' := by
  cases a with
  | tensor x => exact Tensor.Holds.mono holds all.grows
  | window s => exact Span.Backed.mono holds all

namespace Leaf

variable {m m' : Memory} {a : Leaf n t} {b : ValueLeaf n t}

theorem Shows.mono (shows : a.Shows m b) (all : m.Extends m') : a.Shows m' b := by
  cases shows with
  | scalar v => exact .scalar v
  | moved moved => exact .moved moved
  | live holds shows => exact .live (Operand.Holds.mono holds all) (shows.mono all)

theorem Shows.holds {a : Operand t n} (shows : (Leaf.array a).Shows m b) (live : a.Live) :
    a.Holds m := by
  cases shows with
  | moved moved => exact absurd (live.symm.trans moved) Bool.false_ne_true
  | live holds _ => exact holds

theorem Shows.shape (shows : a.Shows m b) : a.shape = b.shape := by
  cases shows with
  | scalar v => rfl
  | moved moved =>
    simp only [Leaf.shape, ValueLeaf.shape, Operand.view, Tensor.view, Tensor.ensureLive, moved]
    rfl
  | @live a v holds shows =>
    have shape : (Leaf.array a).shape = .ok a.span.shape :=
      shape_eq_ok_iff.2 ⟨Operand.Holds.live holds, rfl⟩
    rw [shape, shows.shape]
    rfl

theorem Shows.checkSpace (shows : a.Shows m b) (space : Space) :
    a.checkSpace space = b.checkSpace space := by
  cases shows <;> rfl

theorem Shows.valueAt (shows : a.Shows m b) {target : Shape n} (below : a.extents.Stretches target)
    {i : Index n} (inside : target.Contains i) {e : t.Elem} (given : b.valueAt target i = some e) :
    a.valueAt m target i = e := by
  cases shows with
  | scalar v => exact Option.some.inj given
  | moved moved => cases given
  | @live a v holds shows =>
    have within : a.span.shape.Contains (a.span.shape.narrow target i) :=
      Shape.contains_narrow below inside
    have same : a.span.shape = v.shape := shows.shape
    have found := shows.value _ within e (same ▸ given)
    change a.span.read m (a.span.shape.narrow target i) = e
    rw [Span.read, Memory.read, found, Option.getD_some]

end Leaf

namespace Term

section
variable {L M : DType → Type}

/-- Two terms with related leaves. -/
inductive Pair (R : (t : DType) → L t → M t → Prop) : {t : DType} → Term L t → Term M t → Prop where
  | leaf {t : DType} {a : L t} {b : M t} (related : R t a b) : Pair R (.leaf a) (.leaf b)
  | binary {t : DType} (op : BinaryOp) {l r : Term L t} {l' r' : Term M t} (left : Pair R l l')
    (right : Pair R r r') : Pair R (.binary op l r) (.binary op l' r')
  | unary {t : DType} (op : UnaryOp) {e : Term L t} {e' : Term M t} (operand : Pair R e e') :
    Pair R (.unary op e) (.unary op e')
  | cast {s : DType} (t : DType) {e : Term L s} {e' : Term M s} (operand : Pair R e e') :
    Pair R (.cast t e) (.cast t e')

variable {R S : (t : DType) → L t → M t → Prop} {e : Term L t} {e' : Term M t}

theorem Pair.imp (pair : Pair R e e') (weaker : ∀ u a b, R u a b → S u a b) : Pair S e e' := by
  induction pair with
  | leaf related => exact .leaf (weaker _ _ _ related)
  | binary op _ _ ihl ihr => exact .binary op ihl ihr
  | unary op _ ih => exact .unary op ih
  | cast t _ ih => exact .cast t ih

theorem Pair.symm (pair : Pair R e e') : Pair (fun u b a => R u a b) e' e := by
  induction pair with
  | leaf related => exact .leaf related
  | binary op _ _ ihl ihr => exact .binary op ihl ihr
  | unary op _ ih => exact .unary op ih
  | cast t _ ih => exact .cast t ih

theorem Pair.of_mem_leaves (pair : Pair R e e') :
    ∀ a ∈ e.leaves, ∃ b, ⟨a.1, b⟩ ∈ e'.leaves ∧ R a.1 a.2 b := by
  induction pair with
  | leaf related =>
    intro a member
    obtain rfl := List.mem_singleton.1 member
    exact ⟨_, List.mem_singleton.2 rfl, related⟩
  | binary op _ _ ihl ihr =>
    intro a member
    rcases List.mem_append.1 member with member | member
    · obtain ⟨b, there, related⟩ := ihl a member
      exact ⟨b, List.mem_append_left _ there, related⟩
    · obtain ⟨b, there, related⟩ := ihr a member
      exact ⟨b, List.mem_append_right _ there, related⟩
  | unary op _ ih => exact ih
  | cast t _ ih => exact ih

theorem Pair.forM_leaves {ε : Type} {f : (t : DType) → L t → Except ε Unit}
    {g : (t : DType) → M t → Except ε Unit} (pair : Pair (fun t a b => f t a = g t b) e e') :
    (e.leaves.forM fun a => f a.1 a.2) = e'.leaves.forM fun b => g b.1 b.2 := by
  induction pair with
  | leaf related => simp only [leaves, List.forM_eq_forM, List.forM_cons, List.forM_nil, related]
  | binary op _ _ ihl ihr =>
    simp only [List.forM_eq_forM] at ihl ihr
    simp only [leaves, List.forM_eq_forM, List.forM_append, ihl, ihr]
  | unary op _ ih => exact ih
  | cast t _ ih => exact ih

end

section
variable {e : Expr n t} {q : ValueExpr n t} {m : Memory}

theorem Pair.shape (pair : Pair (fun _ => Leaf.Shows m) e q) :
    e.shape = q.shapeOf ValueLeaf.shape := by
  induction pair with
  | leaf shows => exact shows.shape
  | binary op _ _ ihl ihr => simp only [Term.shape, shapeOf, ihl, ihr]
  | unary op _ ih => exact ih
  | cast t _ ih => exact ih

theorem Pair.checkSpace (pair : Pair (fun _ => Leaf.Shows m) e q) (space : Space) :
    e.checkSpace space = q.leaves.forM fun ⟨_, a⟩ => a.checkSpace space :=
  (pair.imp fun _ _ _ shows => shows.checkSpace space).forM_leaves

theorem Pair.eval [Numerics] (pair : Pair (fun _ => Leaf.Shows m) e q) {target : Shape n}
    (below : ∀ p ∈ e.parts, p.Stretches target) {i : Index n} (inside : target.Contains i)
    {v : t.Elem} (given : q.eval? (ValueLeaf.valueAt target i) = some v) :
    e.eval (Leaf.valueAt m target i) = v := by
  induction pair with
  | leaf shows =>
    exact shows.valueAt (below _ (List.mem_singleton.2 rfl)) inside given
  | binary op _ _ ihl ihr =>
    obtain ⟨a, left, given⟩ := Option.bind_eq_some_iff.1 given
    obtain ⟨b, right, given⟩ := Option.bind_eq_some_iff.1 given
    rw [parts_binary] at below
    obtain ⟨belowl, belowr⟩ := List.forall_mem_append.1 below
    rw [Term.eval, ihl belowl left, ihr belowr right]
    exact Option.some.inj given
  | unary op _ ih =>
    obtain ⟨a, operand, rfl⟩ := Option.map_eq_some_iff.1 given
    rw [Term.eval, ih below operand]
  | cast t _ ih =>
    obtain ⟨a, operand, rfl⟩ := Option.map_eq_some_iff.1 given
    rw [Term.eval, ih below operand]

end

end Term

/-- No element of the leaf lies in a buffer of an element type. -/
def Leaf.Avoids (owner : DType × Base) : Leaf n t → Prop
  | array a => ∀ i, a.span.shape.Contains i → (t, (a.span.cell i).base) ≠ owner
  | scalar _ => True

-- A window without a buffer has no element.
theorem Span.Backed.avoids {s : Span t n} {m : Memory} {owner : DType × Base}
    (backed : s.Backed m) (clear : (t, s.start.base) = owner → owner.2 = .null) :
    (Leaf.array (.window s)).Avoids owner := by
  intro i inside same
  obtain rfl : (t, s.start.base) = owner := same
  have found := backed i inside
  rw [m.fresh_null t (s.cell i) (clear rfl)] at found
  cases found

namespace Term

theorem avoids_of_leaves {e : Expr n t} {base : Base}
    (avoids : ∀ a ∈ e.leaves, a.2.Avoids (t, base)) : e.Avoids base := by
  intro a member i inside same
  exact avoids _ member i inside (congrArg (Prod.mk t) same)

theorem Avoids.beside {e : Expr n t} {target : Span t n} (avoids : e.Avoids target.start.base)
    (below : ∀ p ∈ e.parts, p.Stretches target.shape) :
    (e.lower target.shape).Beside target := by
  intro a member
  rw [lower, leaves_map] at member
  obtain ⟨⟨u, b⟩, known, rfl⟩ := List.mem_map.1 member
  cases b with
  | scalar v => trivial
  | array b =>
    left
    intro i j hi _ same
    change (u, _) = (t, _) at same
    obtain ⟨rfl, cell⟩ := Prod.mk.inj same
    rw [Span.cell_broadcastTo] at cell
    have within := Shape.contains_narrow (below _ (List.mem_map_of_mem known)) hi
    have base := congrArg Address.base cell
    exact avoids b known _ within base

-- Leaves are taken from left to right, and memory only extends on the way.
theorem alike_traverse {L M N : DType → Type} {ε : Type}
    {f : {t : DType} → L t → StateT Memory (Except ε) (M t)}
    {g : {t : DType} → L t → Except ε (N t)} {R : Memory → (t : DType) → M t → N t → Prop}
    (mono : ∀ {m m'}, m.Extends m' → ∀ u a b, R m u a b → R m' u a b) {e : Term L t}
    {first m : Memory} (begun : first.Extends m)
    (leaf : ∀ a ∈ e.leaves, ∀ m, first.Extends m →
      Alike (fun r b => R r.2 a.1 r.1 b ∧ m.Extends r.2) ((f a.2).run m) (g a.2)) :
    Alike (fun r q => Pair (R r.2) r.1 q ∧ m.Extends r.2) ((e.traverse f).run m)
      (e.traverse g) := by
  induction e generalizing m with
  | leaf a =>
    simp only [Term.traverse, StateT.run_map]
    refine (leaf ⟨_, a⟩ (List.mem_singleton.2 rfl) m begun).map fun r b related => ?_
    exact ⟨.leaf related.1, related.2⟩
  | binary op l r ihl ihr =>
    simp only [Term.traverse, StateT.run_bind]
    have first := ihl begun fun a member => leaf a (List.mem_append_left _ member)
    refine first.bind fun p q left => ?_
    obtain ⟨left, all⟩ := left
    have second := ihr (begun.trans all) fun a member => leaf a (List.mem_append_right _ member)
    refine second.bind fun p' q' right => .ok ?_
    exact ⟨.binary op (left.imp (mono right.2)) right.1, all.trans right.2⟩
  | unary op e ih =>
    simp only [Term.traverse, StateT.run_map]
    exact (ih begun leaf).map fun p q operand => ⟨.unary op operand.1, operand.2⟩
  | cast t e ih =>
    simp only [Term.traverse, StateT.run_map]
    exact (ih begun leaf).map fun p q operand => ⟨.cast t operand.1, operand.2⟩

end Term

end Strided
