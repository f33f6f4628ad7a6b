import Strided.Numerics.Standard
import Strided.Proofs.Addressing
import Strided.Proofs.Broadcasting

/-! What the kernel of an expression computes, and what it reads.

At an index of the shape that it is lowered to, a kernel applies the operations of the expression
to one element of every array. An array that stretches along a dimension is read at 0 there, and
at the component of the index everywhere else. Such an index lies inside the array because the
extents of the array stretch to the shape of the expression and this one stretches to the target.
-/

set_option autoImplicit false

namespace Strided

variable {t : DType} {n : Nat}

namespace Shape

/-- The index at which an array of shape `own` is read for an index of the target: 0 along the
dimensions in which it stretches. -/
def narrow (own target : Shape n) (i : Index n) : Index n :=
  Vector.ofFn fun d => if own.extent d = target.extent d then i.get d else 0

@[simp] theorem get_narrow (own target : Shape n) (i : Index n) (d : Fin n) :
    (own.narrow target i).get d = if own.extent d = target.extent d then i.get d else 0 :=
  Vector.getElem_ofFn d.isLt

@[simp] theorem narrow_self (s : Shape n) (i : Index n) : s.narrow s i = i := by
  ext d bound
  exact (get_narrow s s i ⟨d, bound⟩).trans (if_pos rfl)

theorem contains_narrow {own target : Shape n} {i : Index n} (stretches : own.Stretches target)
    (inside : target.Contains i) : own.Contains (own.narrow target i) := by
  intro d
  change (own.narrow target i).get d < own.extent d
  rw [get_narrow]
  split
  · rename_i same
    rw [same]
    exact inside d
  · rename_i other
    have := (stretches d).resolve_left other
    omega

end Shape

theorem Layout.stride_broadcastTo (l : Layout n) (target : Shape n) (d : Fin n) :
    (l.broadcastTo target).strides.stride d =
      if l.shape.extent d = target.extent d then l.strides.stride d else 0 :=
  Vector.getElem_ofFn d.isLt

-- Reading with stride 0 is reading at component 0.
theorem Layout.offset_broadcastTo (l : Layout n) (target : Shape n) (i : Index n) :
    (l.broadcastTo target).offset i = l.offset (l.shape.narrow target i) := by
  rw [offset_eq_sum, offset_eq_sum]
  apply Finset.sum_congr rfl
  intro d _
  rw [stride_broadcastTo, Shape.get_narrow]
  split <;> simp

theorem Span.cell_broadcastTo (s : Span t n) (target : Shape n) (i : Index n) :
    (s.broadcastTo target).cell i = s.cell (s.shape.narrow target i) := by
  simp [cell, broadcastTo, Layout.offset_broadcastTo, shape]

-- A tensor that holds its elements has a cell for each of them; a window is given one.
def Operand.Holds (m : Memory) : Operand t n → Prop
  | tensor x => x.Holds m
  | window s => s.Backed m

theorem Operand.Holds.backed {m : Memory} {a : Operand t n} (holds : a.Holds m) :
    a.span.Backed m := by
  cases a with
  | tensor x => exact Tensor.Holds.backed holds
  | window s => exact holds

def Leaf.valueAt (m : Memory) (target : Shape n) (i : Index n) : Leaf n t → t.Elem
  | array a => a.span.read m (a.span.shape.narrow target i)
  | scalar v => v

def Source.cells (i : Index n) : Source n t → List Address
  | window s => [s.cell i]
  | scalar _ => []

namespace Term

variable {L : DType → Type}

/-- The cells that a kernel reads at an index, each with the type of its element. -/
def reads (i : Index n) (k : Kernel n t) : List (DType × Address) :=
  k.leaves.flatMap fun a => (a.2.cells i).map (a.1, ·)

theorem eval_congr [Numerics] {f g : {t : DType} → L t → t.Elem} {e : Term L t}
    (agree : ∀ a ∈ e.leaves, f a.2 = g a.2) : e.eval f = e.eval g := by
  induction e with
  | leaf a => exact agree ⟨_, a⟩ (List.mem_singleton.2 rfl)
  | binary op l r ihl ihr =>
    have left := ihl fun a member => agree a (List.mem_append_left _ member)
    have right := ihr fun a member => agree a (List.mem_append_right _ member)
    simp only [eval, left, right]
  | unary op e ih => simp only [eval, ih agree]
  | cast t e ih => simp only [eval, ih agree]

theorem valueAt_congr [Numerics] {k : Kernel n t} {i : Index n} {m m' : Memory}
    (agree : ∀ r ∈ k.reads i, m.read? r.1 r.2 = m'.read? r.1 r.2) :
    k.valueAt m i = k.valueAt m' i := by
  apply eval_congr
  rintro ⟨u, a⟩ member
  cases a with
  | scalar v => rfl
  | window s =>
    have read : (u, s.cell i) ∈ k.reads i :=
      List.mem_flatMap.2 ⟨_, member, List.mem_map_of_mem (List.mem_singleton.2 rfl)⟩
    simp only [Source.valueAt, Span.read, Memory.read, agree _ read]

theorem eval_lower [Numerics] (e : Expr n t) (target : Shape n) (m : Memory) (i : Index n) :
    (e.lower target).valueAt m i = e.eval (Leaf.valueAt m target i) := by
  rw [valueAt, lower, eval_map]
  apply eval_congr
  rintro ⟨u, a⟩ _
  cases a with
  | scalar v => rfl
  | array a => simp only [Leaf.lower, Source.valueAt, Leaf.valueAt, Span.read,
      Span.cell_broadcastTo]

theorem mem_reads_lower {e : Expr n t} {target : Shape n} {i : Index n} {r : DType × Address} :
    r ∈ (e.lower target).reads i ↔
      ∃ a : Operand r.1 n, ⟨r.1, .array a⟩ ∈ e.leaves ∧
        r.2 = a.span.cell (a.span.shape.narrow target i) := by
  obtain ⟨u, address⟩ := r
  simp only [reads, lower, leaves_map, List.mem_flatMap, List.mem_map]
  constructor
  · rintro ⟨_, ⟨⟨v, a⟩, member, rfl⟩, _, read, same⟩
    cases a with
    | scalar v => simp [Leaf.lower, Source.cells] at read
    | array a =>
      simp only [Leaf.lower, Source.cells, List.mem_singleton, Span.cell_broadcastTo] at read
      obtain ⟨rfl, rfl⟩ := Prod.mk.inj same
      exact ⟨a, member, read⟩
  · rintro ⟨a, member, rfl⟩
    refine ⟨_, ⟨_, member, rfl⟩, _, ?_, rfl⟩
    simp [Leaf.lower, Source.cells, Span.cell_broadcastTo]

-- Two levels of stretching: the leaf to the shape of the expression, and this one to the target.
theorem stretches_of_mem_leaves {e : Expr n t} {s target : Shape n} (joined : e.shape = .ok s)
    (fits : s.Stretches target) {u : DType} {a : Leaf n u} (member : ⟨u, a⟩ ∈ e.leaves) :
    a.extents.Stretches target := by
  have join := (shape_eq_ok_iff.1 joined).2
  exact (join.upper _ (List.mem_map_of_mem member)).trans fits

/-- The kernel has the value of the expression at every index of the target, and every cell that it
reads is that of an element of one of the arrays. -/
theorem valueAt_lower [Numerics] {e : Expr n t} {s target : Shape n} {i : Index n} (m : Memory)
    (joined : e.shape = .ok s) (fits : s.broadcastsTo target = .ok ())
    (inside : target.Contains i) :
    (e.lower target).valueAt m i = e.eval (Leaf.valueAt m target i) ∧
      (∀ u (a : Operand u n), ⟨u, .array a⟩ ∈ e.leaves →
        a.span.shape.Contains (a.span.shape.narrow target i)) ∧
      ∀ r ∈ (e.lower target).reads i, ∃ a : Operand r.1 n, ⟨r.1, .array a⟩ ∈ e.leaves ∧
        ∃ j, a.span.shape.Contains j ∧ r.2 = a.span.cell j ∧
          (a.Holds m → (m.read? r.1 r.2).isSome) := by
  have stretches := Shape.broadcastsTo_eq_ok_iff.1 fits
  have within (u) (a : Operand u n) (member : ⟨u, .array a⟩ ∈ e.leaves) :
      a.span.shape.Contains (a.span.shape.narrow target i) := by
    have below := stretches_of_mem_leaves joined stretches member
    exact Shape.contains_narrow below inside
  refine ⟨eval_lower e target m i, within, ?_⟩
  intro r read
  obtain ⟨a, member, same⟩ := mem_reads_lower.1 read
  refine ⟨a, member, _, within _ a member, same, ?_⟩
  intro holds
  rw [same]
  exact holds.backed _ (within _ a member)

end Term

def threeNumbers : Memory :=
  ⟨{ (DType.Family.const fun _ => #[] : DType.Family fun t => Array (Array t.Elem)) with
    i32 := #[#[10, 20, 30]] }⟩

-- A column that runs backwards through the buffer.
def reversedColumn : Span .i32 2 :=
  ⟨.host, ⟨.buffer 0, 2⟩, ⟨⟨#v[3, 1]⟩, ⟨#v[-1, 5]⟩⟩⟩

-- The negated scalar wraps around in its narrow type before it is widened.
def columnLessNarrow : Expr 2 .i32 :=
  .binary .sub (.leaf (.array (.window reversedColumn)))
    (.cast .i32 (.unary .neg (.leaf (.scalar (t := .u8) 7))))

theorem valueAt_lower_columnLessNarrow :
    columnLessNarrow.shape = .ok ⟨#v[3, 1]⟩ ∧
      (⟨#v[3, 1]⟩ : Shape 2).broadcastsTo ⟨#v[3, 2]⟩ = .ok () ∧
      (⟨#v[3, 2]⟩ : Shape 2).Contains #v[2, 1] ∧
      (columnLessNarrow.lower ⟨#v[3, 2]⟩).valueAt threeNumbers #v[2, 1] = (10 - 249 : Int32) ∧
      reversedColumn.shape.Contains #v[2, 0] := by
  have joined : columnLessNarrow.shape = .ok ⟨#v[3, 1]⟩ := rfl
  have fits : (⟨#v[3, 1]⟩ : Shape 2).broadcastsTo ⟨#v[3, 2]⟩ = .ok () := rfl
  have inside : (⟨#v[3, 2]⟩ : Shape 2).Contains #v[2, 1] := by decide
  obtain ⟨value, within, _⟩ := Term.valueAt_lower threeNumbers joined fits inside
  refine ⟨joined, fits, inside, value.trans rfl, ?_⟩
  exact within .i32 (.window reversedColumn) (.head _)

end Strided
