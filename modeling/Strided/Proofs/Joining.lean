import Mathlib.Data.List.Dedup
import Strided.Proofs.Lowering

/-! The shape of an expression, one dimension at a time.

In a dimension the extents of the operands have to meet: at most one of them is another one than 1,
and 0 is such an extent too. The order of the operands and the way in which the expression nests
them play no part in this, so broadcasting is commutative and associative, failures included. Which
two shapes a failure names does depend on the order.
-/

set_option autoImplicit false

namespace Strided

variable {t : DType} {n : Nat}

namespace Shape

/-- The extent in which extents meet: the only one other than 1, or 1 if there is none. -/
def common? (extents : List Nat) : Option Nat :=
  match (extents.filter (· ≠ 1)).dedup with
  | [] => some 1
  | [k] => some k
  | _ => none

theorem common?_eq_some_iff {extents : List Nat} {k : Nat} :
    common? extents = some k ↔ (∀ e ∈ extents, e = k ∨ e = 1) ∧ (k = 1 ∨ k ∈ extents) := by
  have member (e : Nat) : e ∈ (extents.filter (· ≠ 1)).dedup ↔ e ∈ extents ∧ e ≠ 1 := by simp
  have distinct : (extents.filter (· ≠ 1)).dedup.Nodup := List.nodup_dedup _
  unfold common?
  generalize (extents.filter (· ≠ 1)).dedup = others at member distinct
  cases others with
  | nil =>
    have ones (e : Nat) (listed : e ∈ extents) : e = 1 := by
      by_contra other
      cases (member e).2 ⟨listed, other⟩
    constructor
    · intro same
      obtain rfl : 1 = k := Option.some.inj same
      exact ⟨fun e listed => Or.inr (ones e listed), Or.inl rfl⟩
    · rintro ⟨-, one | listed⟩
      · rw [one]
      · rw [ones k listed]
  | cons a rest =>
    obtain ⟨listed, other⟩ := (member a).1 List.mem_cons_self
    cases rest with
    | nil =>
      constructor
      · intro same
        obtain rfl : a = k := Option.some.inj same
        refine ⟨fun e here => ?_, Or.inr listed⟩
        by_cases one : e = 1
        · exact Or.inr one
        · exact Or.inl (List.mem_singleton.1 ((member e).2 ⟨here, one⟩))
      · rintro ⟨all, -⟩
        rw [(all a listed).resolve_right other]
    | cons b rest =>
      obtain ⟨listed', other'⟩ := (member b).1 (List.mem_cons_of_mem a List.mem_cons_self)
      have apart : a ≠ b := by
        rintro rfl
        exact (List.nodup_cons.1 distinct).1 List.mem_cons_self
      refine iff_of_false nofun fun ⟨all, _⟩ => apart ?_
      rw [(all a listed).resolve_right other, (all b listed').resolve_right other']

theorem isJoin_iff_common? {parts : List (Shape n)} {s : Shape n} :
    IsJoin parts s ↔ ∀ d, common? (parts.map fun p => p.extent d) = some (s.extent d) := by
  simp only [common?_eq_some_iff, List.mem_map, forall_exists_index, and_imp,
    forall_apply_eq_imp_iff₂]
  constructor
  · intro join d
    exact ⟨fun p member => join.upper p member d, join.attained d⟩
  · intro each
    exact ⟨fun p member d => (each d).1 p member, fun d => (each d).2⟩

theorem isJoin_congr {parts others : List (Shape n)} (same : ∀ p, p ∈ parts ↔ p ∈ others)
    {s : Shape n} : IsJoin parts s ↔ IsJoin others s := by
  constructor
  · intro ⟨upper, attained⟩
    simp only [same] at upper attained
    exact ⟨upper, attained⟩
  · intro ⟨upper, attained⟩
    simp only [← same] at upper attained
    exact ⟨upper, attained⟩

/-- Both have the same shape, or both fail because shapes do not fit. -/
inductive Agrees : Except Error (Shape n) → Except Error (Shape n) → Prop where
  | ok (s : Shape n) : Agrees (.ok s) (.ok s)
  | mismatch (expected found expected' found' : List Nat) :
    Agrees (.error (.shapeMismatch expected found)) (.error (.shapeMismatch expected' found'))

end Shape

namespace Term

variable {e : Expr n t}

-- Live operands can fail to have a shape in one way only.
theorem exists_mismatch (live : e.Live) {fault : Error} (failed : e.shape = .error fault) :
    ∃ expected found, fault = .shapeMismatch expected found := by
  induction e with
  | leaf a =>
    have shape : a.shape = .ok a.extents := Leaf.shape_eq_ok_iff.2 ⟨live _ List.mem_cons_self, rfl⟩
    rw [Term.shape, shape] at failed
    cases failed
  | binary op l r ihl ihr =>
    obtain ⟨left, right⟩ := List.forall_mem_append.1 live
    rcases Outcome.bind_eq_error_iff.1 failed with failed | ⟨s, -, failed⟩
    · exact ihl left failed
    rcases Outcome.bind_eq_error_iff.1 failed with failed | ⟨u, -, failed⟩
    · exact ihr right failed
    · unfold Shape.broadcast at failed
      split at failed
      · cases failed
      · cases failed
        exact ⟨_, _, rfl⟩
  | unary op e ih => exact ih live failed
  | cast t e ih => exact ih live failed

theorem shape_eq_ok_iff_common? (live : e.Live) {s : Shape n} :
    e.shape = .ok s ↔ ∀ d, Shape.common? (e.parts.map fun p => p.extent d) = some (s.extent d) := by
  rw [shape_eq_ok_iff, and_iff_right live, Shape.isJoin_iff_common?]

theorem exists_common?_eq_none_iff (live : e.Live) :
    (∃ d, Shape.common? (e.parts.map fun p => p.extent d) = none) ↔
      ∃ expected found, e.shape = .error (.shapeMismatch expected found) := by
  constructor
  · rintro ⟨d, none⟩
    cases outcome : e.shape with
    | ok s =>
      have some := (shape_eq_ok_iff_common? live).1 outcome d
      rw [none] at some
      cases some
    | error fault =>
      obtain ⟨expected, found, rfl⟩ := exists_mismatch live outcome
      exact ⟨expected, found, rfl⟩
  · rintro ⟨expected, found, failed⟩
    by_contra every
    -- Extents that meet everywhere are those of a shape.
    choose extent meet using fun d => Option.ne_none_iff_exists'.1 (not_exists.1 every d)
    have joined : e.shape = .ok (.ofFn extent) :=
      (shape_eq_ok_iff_common? live).2 fun d => by rw [meet, Shape.extent_ofFn]
    rw [joined] at failed
    cases failed

theorem agrees_of_parts (live : e.Live) {u : DType} {e' : Expr n u} (live' : e'.Live)
    (same : ∀ p, p ∈ e.parts ↔ p ∈ e'.parts) : Shape.Agrees e.shape e'.shape := by
  have join (s : Shape n) : e.shape = .ok s ↔ e'.shape = .ok s := by
    rw [shape_eq_ok_iff, shape_eq_ok_iff, and_iff_right live, and_iff_right live',
      Shape.isJoin_congr same]
  cases outcome : e.shape with
  | ok s =>
    rw [(join s).1 outcome]
    exact .ok s
  | error fault =>
    cases outcome' : e'.shape with
    | ok s =>
      rw [(join s).2 outcome'] at outcome
      cases outcome
    | error fault' =>
      obtain ⟨_, _, rfl⟩ := exists_mismatch live outcome
      obtain ⟨_, _, rfl⟩ := exists_mismatch live' outcome'
      exact .mismatch _ _ _ _

end Term

namespace Shape

def operand (s : Shape n) : Expr n .u8 :=
  .leaf (.array (.window (.adapt .host (.start .null) s)))

theorem live_operand (s : Shape n) : s.operand.Live :=
  fun _ member => List.mem_singleton.1 member ▸ trivial

theorem live_sum {l r : Expr n t} (left : l.Live) (right : r.Live) :
    (Term.binary .add l r).Live :=
  Term.live_binary_iff.2 ⟨left, right⟩

section
variable (a b c : Shape n)

-- The laws of broadcasting are about expressions with two and with three operands.

theorem broadcast_comm : Agrees (a.broadcast b) (b.broadcast a) := by
  have left := live_sum a.live_operand b.live_operand
  have right := live_sum b.live_operand a.live_operand
  refine Term.agrees_of_parts left right fun p => ?_
  simp only [Term.parts_binary, List.mem_append, or_comm]

theorem broadcast_assoc :
    Agrees (a.broadcast b >>= fun s => s.broadcast c) (b.broadcast c >>= a.broadcast) := by
  have left := live_sum (live_sum a.live_operand b.live_operand) c.live_operand
  have right := live_sum a.live_operand (live_sum b.live_operand c.live_operand)
  refine Term.agrees_of_parts left right fun p => ?_
  simp only [Term.parts_binary, List.mem_append, or_assoc]

variable {a b}

theorem broadcast_of_stretches (below : a.Stretches b) :
    a.broadcast b = .ok b ∧ b.broadcast a = .ok b := by
  have left := isJoin_singleton a
  have right := isJoin_singleton b
  constructor
  · refine (broadcast_eq_ok_iff_isJoin left right).2 ⟨?_, fun d => Or.inr ⟨b, by simp, rfl⟩⟩
    simpa using ⟨below, Stretches.refl b⟩
  · refine (broadcast_eq_ok_iff_isJoin right left).2 ⟨?_, fun d => Or.inr ⟨b, by simp, rfl⟩⟩
    simpa using ⟨Stretches.refl b, below⟩

theorem stretches_ones (a : Shape n) : (ones : Shape n).Stretches a :=
  fun d => Or.inr (extent_ofFn _ d)

end

end Shape

namespace Term

/-- The shape of an expression over live operands is the least one to which all of them stretch. It
is read off the extents of the operands, whatever their order and nesting are. -/
theorem shape_joins (e : Expr n t) (live : e.Live) :
    (∀ s, e.shape = .ok s ↔
        ∀ d, Shape.common? (e.parts.map fun p => p.extent d) = some (s.extent d)) ∧
      ((∃ d, Shape.common? (e.parts.map fun p => p.extent d) = none) ↔
        ∃ expected found, e.shape = .error (.shapeMismatch expected found)) ∧
      (∀ u (e' : Expr n u), e'.Live → (∀ p, p ∈ e.parts ↔ p ∈ e'.parts) →
        Shape.Agrees e.shape e'.shape) ∧
      (∀ s, e.shape = .ok s →
        (∀ p ∈ e.parts, p.broadcastsTo s = .ok ()) ∧
          ∀ target, (∀ p ∈ e.parts, p.broadcastsTo target = .ok ()) →
            s.broadcastsTo target = .ok ()) ∧
      ∀ a b c : Shape n,
        Shape.Agrees (a.broadcast b) (b.broadcast a) ∧
          Shape.Agrees (a.broadcast b >>= fun s => s.broadcast c)
            (b.broadcast c >>= fun s => a.broadcast s) ∧
          a.broadcast a = .ok a ∧
          a.broadcast .ones = .ok a ∧ Shape.ones.broadcast a = .ok a := by
  refine ⟨fun s => shape_eq_ok_iff_common? live, exists_common?_eq_none_iff live,
    fun u e' live' same => agrees_of_parts live live' same, ?_, ?_⟩
  · intro s joined
    have join := (shape_eq_ok_iff.1 joined).2
    simp only [Shape.broadcastsTo_eq_ok_iff]
    exact ⟨join.upper, fun target above => join.least above⟩
  · intro a b c
    have idem := Shape.broadcast_of_stretches (Shape.Stretches.refl a)
    have unit := Shape.broadcast_of_stretches (Shape.stretches_ones a)
    exact ⟨a.broadcast_comm b, a.broadcast_assoc b c, idem.1, unit.2, unit.1⟩

-- Extent 0 is another one than 1: the column of three, times a row without an element.
def columnTimesNothing : Expr 2 .i32 :=
  .binary .mul
    (.binary .add (.leaf (.scalar (t := .i32) 7)) (.leaf (.array (.window reversedColumn))))
    (.leaf (.array (.window (.adapt .host (.start .null) ⟨#v[1, 0]⟩))))

theorem shape_columnTimesNothing :
    columnTimesNothing.Live ∧ columnTimesNothing.shape = .ok ⟨#v[3, 0]⟩ := by
  have live : columnTimesNothing.Live := by
    simp [columnTimesNothing, Live, leaves, Leaf.Live, Operand.Live]
  exact ⟨live, ((shape_joins columnTimesNothing live).1 ⟨#v[3, 0]⟩).2 (by decide)⟩

end Term

end Strided
