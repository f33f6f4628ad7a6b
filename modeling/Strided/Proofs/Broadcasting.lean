import Strided.Expr
import Strided.Proofs.Outcome

/-! Broadcasting as an order on shapes.

A shape lies below another when it stretches to it. Broadcasting two shapes takes their join, and
an expression has the join of the shapes of its leaves: the order of the leaves and the way in
which the expression nests them do not matter.
-/

set_option autoImplicit false

namespace Strided

variable {t : DType} {n : Nat}

namespace Shape

theorem Stretches.refl (s : Shape n) : s.Stretches s :=
  fun _ => Or.inl rfl

theorem Stretches.trans {s u v : Shape n} (first : s.Stretches u) (second : u.Stretches v) :
    s.Stretches v := by
  intro d
  rcases first d with same | one
  · rcases second d with same' | one'
    · exact Or.inl (same.trans same')
    · exact Or.inr (same.trans one')
  · exact Or.inr one

theorem Stretches.antisymm {s u : Shape n} (below : s.Stretches u) (above : u.Stretches s) :
    s = u := by
  ext d
  have := below d
  have := above d
  omega

/-- The least shape to which all parts stretch: an extent other than 1 is that of a part. -/
structure IsJoin (parts : List (Shape n)) (s : Shape n) : Prop where
  upper : ∀ p ∈ parts, p.Stretches s
  attained : ∀ d, s.extent d = 1 ∨ ∃ p ∈ parts, p.extent d = s.extent d

section
variable {parts others : List (Shape n)} {s u v target : Shape n}

theorem IsJoin.least (join : IsJoin parts s) (above : ∀ p ∈ parts, p.Stretches target) :
    s.Stretches target := by
  intro d
  rcases join.attained d with one | ⟨p, member, same⟩
  · exact Or.inr one
  · rw [← same]
    exact above p member d

theorem IsJoin.unique (join : IsJoin parts s) (other : IsJoin parts u) : s = u :=
  (join.least other.upper).antisymm (other.least join.upper)

theorem isJoin_singleton (s : Shape n) : IsJoin [s] s where
  upper p member := by
    rw [List.mem_singleton.1 member]
    exact Stretches.refl s
  attained d := Or.inr ⟨s, List.mem_singleton.2 rfl, rfl⟩

-- Shapes that stretch to a common target have a join: the target, with extent 1 where no part
-- has another one.
theorem exists_isJoin (above : ∀ p ∈ parts, p.Stretches target) : ∃ s, IsJoin parts s := by
  refine ⟨ofFn fun d => if ∃ p ∈ parts, p.extent d ≠ 1 then target.extent d else 1, ?_, ?_⟩
  · intro p member d
    rw [extent_ofFn]
    by_cases one : p.extent d = 1
    · exact Or.inr one
    · rw [if_pos ⟨p, member, one⟩]
      exact above p member d
  · intro d
    rw [extent_ofFn]
    split
    · rename_i other
      obtain ⟨p, member, other⟩ := other
      exact Or.inr ⟨p, member, (above p member d).resolve_right other⟩
    · exact Or.inl rfl

theorem agree_meet {a b c : Nat} (left : a = c ∨ a = 1) (right : b = c ∨ b = 1)
    (attained : c = 1 ∨ a = c ∨ b = c) : Agree a b ∧ c = meet a b := by
  unfold Agree meet
  split <;> omega

theorem meet_upper {a b : Nat} (agree : Agree a b) :
    (a = meet a b ∨ a = 1) ∧ (b = meet a b ∨ b = 1) := by
  unfold Agree at agree
  unfold meet
  split <;> omega

theorem meet_attained (a b : Nat) : meet a b = a ∨ meet a b = b := by
  unfold meet
  split
  · exact Or.inl rfl
  · exact Or.inr rfl

section
variable (left : IsJoin parts s) (right : IsJoin others u)
include left right

theorem IsJoin.meet (agree : ∀ d, Agree (s.extent d) (u.extent d)) :
    IsJoin (parts ++ others) (ofFn fun d => meet (s.extent d) (u.extent d)) := by
  have upper (d) := meet_upper (agree d)
  constructor
  · intro p member d
    rw [extent_ofFn]
    rcases List.mem_append.1 member with member | member
    · have := left.upper p member d
      have := (upper d).1
      omega
    · have := right.upper p member d
      have := (upper d).2
      omega
  · intro d
    rw [extent_ofFn]
    rcases meet_attained (s.extent d) (u.extent d) with same | same <;> rw [same]
    · exact (left.attained d).imp_right fun ⟨p, member, h⟩ =>
        ⟨p, List.mem_append_left _ member, h⟩
    · exact (right.attained d).imp_right fun ⟨p, member, h⟩ =>
        ⟨p, List.mem_append_right _ member, h⟩

theorem IsJoin.agree (join : IsJoin (parts ++ others) v) (d : Fin n) :
    Agree (s.extent d) (u.extent d) ∧ v.extent d = Shape.meet (s.extent d) (u.extent d) := by
  have below := left.least fun p member => join.upper p (List.mem_append_left _ member)
  have below' := right.least fun p member => join.upper p (List.mem_append_right _ member)
  apply agree_meet (below d) (below' d)
  rcases join.attained d with one | ⟨p, member, same⟩
  · exact Or.inl one
  -- A part with the extent of the join pulls the side to which it belongs up to it.
  · rcases List.mem_append.1 member with member | member
    · have := left.upper p member d
      have := below d
      omega
    · have := right.upper p member d
      have := below' d
      omega

theorem broadcast_eq_ok_iff_isJoin : s.broadcast u = .ok v ↔ IsJoin (parts ++ others) v := by
  rw [broadcast_eq_ok_iff]
  constructor
  · rintro ⟨agree, rfl⟩
    exact left.meet right agree
  · intro join
    refine ⟨fun d => (left.agree right join d).1, ?_⟩
    ext d
    rw [extent_ofFn]
    exact (left.agree right join d).2

end

end

end Shape

def Operand.Live : Operand t n → Prop
  | tensor x => x.isMovedFrom = false
  | window _ => True

theorem Operand.view_eq_ok_iff {a : Operand t n} {s : Span t n} :
    a.view = .ok s ↔ a.Live ∧ s = a.span := by
  cases a with
  | tensor x =>
    cases moved : x.isMovedFrom <;>
      simp [view, span, Live, Tensor.view, Tensor.ensureLive, moved, bind, Except.bind, pure,
        Except.pure, eq_comm]
  | window w => simp [view, span, Live, eq_comm]

theorem Operand.view_of_live {a : Operand t n} (live : a.Live) : a.view = .ok a.span :=
  view_eq_ok_iff.2 ⟨live, rfl⟩

namespace Leaf

/-- The extents of a leaf, also those of a tensor that was moved from. -/
def extents : Leaf n t → Shape n
  | array a => a.span.shape
  | scalar _ => .ones

def Live : Leaf n t → Prop
  | array a => a.Live
  | scalar _ => True

theorem shape_eq_ok_iff {a : Leaf n t} {s : Shape n} :
    a.shape = .ok s ↔ a.Live ∧ s = a.extents := by
  cases a with
  | scalar v => simp [shape, extents, Live, eq_comm]
  | array a =>
    cases found : a.view with
    | ok w =>
      obtain ⟨live, rfl⟩ := Operand.view_eq_ok_iff.1 found
      simp [shape, extents, Live, found, live, Functor.map, Except.map, eq_comm]
    | error fault =>
      have dead : ¬ a.Live := fun live => by
        rw [Operand.view_of_live live] at found
        cases found
      simp [shape, Live, found, dead, Functor.map, Except.map]

end Leaf

namespace Term

def parts (e : Expr n t) : List (Shape n) :=
  e.leaves.map fun a => a.2.extents

def Live (e : Expr n t) : Prop :=
  ∀ a ∈ e.leaves, a.2.Live

theorem parts_binary (op : BinaryOp) (l r : Expr n t) :
    (binary op l r).parts = l.parts ++ r.parts :=
  List.map_append

theorem live_binary_iff {op : BinaryOp} {l r : Expr n t} :
    (binary op l r).Live ↔ l.Live ∧ r.Live :=
  List.forall_mem_append

-- An expression has a shape when its leaves are live and have a join, which is then its shape.
theorem shape_eq_ok_iff {e : Expr n t} {s : Shape n} :
    e.shape = .ok s ↔ e.Live ∧ Shape.IsJoin e.parts s := by
  induction e generalizing s with
  | leaf a =>
    simp only [shape, Leaf.shape_eq_ok_iff, Live, parts, leaves, List.mem_singleton,
      forall_eq, List.map_cons, List.map_nil]
    refine and_congr_right fun _ => ⟨?_, ?_⟩
    · rintro rfl
      exact Shape.isJoin_singleton _
    · exact fun join => join.unique (Shape.isJoin_singleton _)
  | binary op l r ihl ihr =>
    rw [live_binary_iff, parts_binary, shape, Outcome.bind_eq_ok_iff]
    constructor
    · rintro ⟨s₁, hl, h⟩
      obtain ⟨s₂, hr, h⟩ := Outcome.bind_eq_ok_iff.1 h
      obtain ⟨livel, joinl⟩ := ihl.1 hl
      obtain ⟨liver, joinr⟩ := ihr.1 hr
      exact ⟨⟨livel, liver⟩, (Shape.broadcast_eq_ok_iff_isJoin joinl joinr).1 h⟩
    · rintro ⟨⟨livel, liver⟩, join⟩
      -- Each side has a join of its own, because its parts stretch to the join of all.
      obtain ⟨s₁, joinl⟩ := Shape.exists_isJoin fun p member =>
        join.upper p (List.mem_append_left _ member)
      obtain ⟨s₂, joinr⟩ := Shape.exists_isJoin fun p member =>
        join.upper p (List.mem_append_right _ member)
      refine ⟨s₁, ihl.2 ⟨livel, joinl⟩, Outcome.bind_eq_ok_iff.2 ⟨s₂, ihr.2 ⟨liver, joinr⟩, ?_⟩⟩
      exact (Shape.broadcast_eq_ok_iff_isJoin joinl joinr).2 join
  | unary op e ih => exact ih
  | cast t e ih => exact ih

end Term

end Strided
