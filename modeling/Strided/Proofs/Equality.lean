import Strided.Numerics.Standard
import Strided.Proofs.Flattening

/-! Equality of arrays as equality of their values.

Two arrays are compared by their extents and by their elements as lists. The extents decide the
rank too, and in arrays of one shape the elements at one index stand at one position of the lists.
So what is compared are the elements index by index, and no layout or space plays a part.
-/

set_option autoImplicit false

namespace Strided

variable {t : DType} {n k l : Nat}

/-- Whole numbers are equal as numbers only if they are the same. -/
theorem DType.lawfulBEq [Numerics] {t : DType} (integral : t.isIntegral = true) :
    LawfulBEq t.Elem := by
  cases t with
  | u8 => exact inferInstanceAs (LawfulBEq UInt8)
  | u32 => exact inferInstanceAs (LawfulBEq UInt32)
  | i32 => exact inferInstanceAs (LawfulBEq Int32)
  | i64 => exact inferInstanceAs (LawfulBEq Int64)
  | f32 | f64 | c32 | c64 | f16 | bf16 => cases integral

theorem Shape.rank_eq {s : Shape n} {u : Shape k} (extents : s.toList = u.toList) : n = k :=
  s.length_toList.symm.trans ((congrArg List.length extents).trans u.length_toList)

namespace Span

variable [Numerics]

/-- The two windows have the same extents, and equal elements at every index. -/
structure Matches (a : Span t n) (b : Span t k) (m : Memory) : Prop where
  extents : a.shape.toList = b.shape.toList
  elements : ∀ (i : Index n) (j : Index k), i.toList = j.toList → a.shape.Contains i →
    (a.read m i == b.read m j) = true

section
variable {m : Memory}

-- Windows that match have one rank, and there one index stands for both.
theorem matches_iff {a b : Span t n} :
    a.Matches b m ↔
      a.shape = b.shape ∧ ∀ i, a.shape.Contains i → (a.read m i == b.read m i) = true := by
  constructor
  · rintro ⟨extents, elements⟩
    exact ⟨Shape.eq_of_toList extents, fun i => elements i i rfl⟩
  · rintro ⟨same, elements⟩
    refine ⟨congrArg Shape.toList same, fun i j here inside => ?_⟩
    obtain rfl := Vector.toList_inj.1 here
    exact elements i inside

theorem Matches.refl [LawfulBEq t.Elem] (a : Span t n) (m : Memory) : a.Matches a m :=
  matches_iff.2 ⟨rfl, fun _ _ => beq_self_eq_true _⟩

theorem Matches.symm [LawfulBEq t.Elem] {a : Span t n} {b : Span t k} (related : a.Matches b m) :
    b.Matches a m := by
  obtain rfl := Shape.rank_eq related.extents
  obtain ⟨same, elements⟩ := matches_iff.1 related
  refine matches_iff.2 ⟨same.symm, fun i inside => ?_⟩
  rw [BEq.comm]
  exact elements i (same ▸ inside)

theorem Matches.trans [LawfulBEq t.Elem] {a : Span t n} {b : Span t k} {d : Span t l}
    (first : a.Matches b m) (second : b.Matches d m) : a.Matches d m := by
  obtain rfl := Shape.rank_eq first.extents
  obtain rfl := Shape.rank_eq second.extents
  obtain ⟨same, elements⟩ := matches_iff.1 first
  obtain ⟨next, further⟩ := matches_iff.1 second
  refine matches_iff.2 ⟨same.trans next, fun i inside => ?_⟩
  exact BEq.trans (elements i inside) (further i (same ▸ inside))

theorem matches_of_empty {a : Span t n} {b : Span t k} (empty : a.size = 0) :
    a.Matches b m ↔ a.shape.toList = b.shape.toList := by
  refine ⟨Matches.extents, fun extents => ⟨extents, fun i _ _ inside => ?_⟩⟩
  have below : a.shape.position i < a.size := Shape.position_lt_size inside
  omega

-- In windows of one shape, the elements at one index stand at one position of the lists.
theorem toList_beq_iff {c : ExecConfig} (valid : c.Valid) {a b : Span t n}
    (same : a.shape = b.shape) (known : a.Backed m) (other : b.Backed m) :
    (a.toList c m == b.toList c m) = true ↔
      ∀ i, a.shape.Contains i → (a.read m i == b.read m i) = true := by
  have size : a.size = b.size := congrArg Shape.size same
  have lengths : (a.toList c m).length = (b.toList c m).length := by
    rw [length_toList, length_toList, size]
  rw [List.beq_eq_decide, dif_pos lengths, decide_eq_true_iff]
  constructor
  · intro entries i inside
    have below : a.shape.position i < a.size := Shape.position_lt_size inside
    have back : a.shape.unravel (a.shape.position i) = i := Shape.unravel_position inside
    have equal := entries (a.shape.position i) ((length_toList c a m).symm ▸ below)
    rwa [getElem_toList valid known, getElem_toList valid other, ← same, back] at equal
  · intro elements p bound
    have below : p < a.size := length_toList c a m ▸ bound
    rw [getElem_toList valid known, getElem_toList valid other, ← same]
    exact elements _ (Shape.contains_unravel below)

theorem equal_iff_matches {c : ExecConfig} (valid : c.Valid) {a : Span t n} {b : Span t k}
    (known : a.Backed m) (other : b.Backed m) : a.equal c b m = true ↔ a.Matches b m := by
  rw [equal, Bool.and_eq_true, decide_eq_true_iff]
  constructor
  · rintro ⟨extents, entries⟩
    obtain rfl := Shape.rank_eq extents
    have same := Shape.eq_of_toList extents
    exact matches_iff.2 ⟨same, (toList_beq_iff valid same known other).1 entries⟩
  · intro related
    obtain rfl := Shape.rank_eq related.extents
    obtain ⟨same, elements⟩ := matches_iff.1 related
    exact ⟨related.extents, (toList_beq_iff valid same known other).2 elements⟩

end

end Span

namespace Operand

variable {c : ExecConfig} {a : Operand t n} {b : Operand t k} {m : Memory}

variable [Numerics]

theorem equal_of_live (live : a.Live) (kept : b.Live) :
    a.equal c b m = a.span.equal c b.span m := by
  rw [equal, view_of_live live, view_of_live kept]

theorem equal_of_not_live (dead : ¬ (a.Live ∧ b.Live)) : a.equal c b m = false := by
  by_cases live : a.Live
  · have gone : ¬ b.Live := fun kept => dead ⟨live, kept⟩
    rw [equal, view_of_not_live gone]
    cases a.view <;> rfl
  · rw [equal, view_of_not_live live]

theorem equal_iff (valid : c.Valid) (known : a.Live → a.span.Backed m)
    (other : b.Live → b.span.Backed m) :
    a.equal c b m = true ↔ a.Live ∧ b.Live ∧ a.span.Matches b.span m := by
  by_cases both : a.Live ∧ b.Live
  · obtain ⟨live, kept⟩ := both
    rw [equal_of_live live kept, Span.equal_iff_matches valid (known live) (other kept)]
    exact ⟨fun related => ⟨live, kept, related⟩, fun related => related.2.2⟩
  · rw [equal_of_not_live both]
    exact ⟨nofun, fun ⟨live, kept, _⟩ => absurd ⟨live, kept⟩ both⟩

/-- Two arrays are equal if and only if none of them was moved from, their extents are the same and
so are their elements at every index. On whole numbers this is an equivalence of all arrays that
were not moved from. -/
theorem equal_exact (valid : c.validate = .ok ()) {d : Operand t l}
    (first : a.Live → a.span.Backed m) (second : b.Live → b.span.Backed m)
    (third : d.Live → d.span.Backed m) :
    (a.equal c b m = true ↔ a.Live ∧ b.Live ∧ a.span.Matches b.span m) ∧
      (¬ (a.Live ∧ b.Live) → a.equal c b m = false) ∧
      (a.Live → b.Live → a.span.size = 0 → b.span.size = 0 →
        (a.equal c b m = true ↔ a.span.shape.toList = b.span.shape.toList)) ∧
      (t.isIntegral = true →
        (a.equal c b m = true → ∀ (i : Index n) (j : Index k), i.toList = j.toList →
          a.span.shape.Contains i → a.span.read m i = b.span.read m j) ∧
        (a.Live → a.equal c a m = true) ∧
        (a.equal c b m = true → b.equal c a m = true) ∧
        (a.equal c b m = true → b.equal c d m = true → a.equal c d m = true)) := by
  have valid := ExecConfig.validate_eq_ok_iff.1 valid
  refine ⟨equal_iff valid first second, equal_of_not_live, ?_, fun integral => ?_⟩
  · intro live kept empty _
    rw [equal_iff valid first second, Span.matches_of_empty empty]
    exact ⟨fun related => related.2.2, fun extents => ⟨live, kept, extents⟩⟩
  · have lawful := DType.lawfulBEq integral
    refine ⟨fun equal i j here inside => ?_, fun live => ?_, fun equal => ?_, fun equal next => ?_⟩
    · obtain ⟨-, -, related⟩ := (equal_iff valid first second).1 equal
      exact eq_of_beq (related.elements i j here inside)
    · exact (equal_iff valid first first).2 ⟨live, live, .refl a.span m⟩
    · obtain ⟨live, kept, related⟩ := (equal_iff valid first second).1 equal
      exact (equal_iff valid second first).2 ⟨kept, live, related.symm⟩
    · obtain ⟨live, -, related⟩ := (equal_iff valid first second).1 equal
      obtain ⟨-, kept, further⟩ := (equal_iff valid second third).1 next
      exact (equal_iff valid first third).2 ⟨live, kept, related.trans further⟩

end Operand

-- Three of five zeros, from the last one on.
def zerosBackwards : Span .i32 1 :=
  { backwards with start := ⟨.buffer 1, 4⟩ }

/-- Zeros in two spaces, in opposite directions, are equal. They differ from other numbers. -/
theorem equal_exact_everyOther :
    oneThread.validate = .ok () ∧ everyOther.Backed twoBuffers ∧ zerosBackwards.Backed twoBuffers ∧
      backwards.Backed twoBuffers ∧
      (Operand.window everyOther).equal oneThread (.window zerosBackwards) twoBuffers = true ∧
      (Operand.window everyOther).equal oneThread (.window backwards) twoBuffers = false := by
  have valid : oneThread.validate = .ok () := rfl
  have skipping : everyOther.Backed twoBuffers := backed_line (by decide)
  have zeros : zerosBackwards.Backed twoBuffers := backed_line (by decide)
  have back : backwards.Backed twoBuffers := backed_line (by decide)
  obtain ⟨same, -⟩ := @Operand.equal_exact _ _ _ 1 _ (.window everyOther)
    (.window zerosBackwards) _ _ valid (.window backwards) (fun _ => skipping) (fun _ => zeros)
    (fun _ => back)
  obtain ⟨-, -, -, differ⟩ := @Operand.equal_exact _ _ _ 1 _ (.window everyOther)
    (.window backwards) _ _ valid (.window zerosBackwards) (fun _ => skipping) (fun _ => back)
    (fun _ => zeros)
  have related : everyOther.Matches zerosBackwards twoBuffers := by
    refine Span.matches_iff.2 ⟨rfl, fun i inside => ?_⟩
    have place : everyOther.cell i = Address.shift ⟨.buffer 1, 0⟩ (i.get 0 * 2) := cell_line i
    have other : zerosBackwards.cell i = Address.shift ⟨.buffer 1, 4⟩ (i.get 0 * -1) :=
      cell_line i
    have numbers : ∀ k : Nat, k < 3 →
        (twoBuffers.read .i32 (Address.shift ⟨.buffer 1, 0⟩ (k * 2)) ==
          twoBuffers.read .i32 (Address.shift ⟨.buffer 1, 4⟩ (k * -1))) = true := by decide
    rw [Span.read, Span.read, place, other]
    exact numbers (i.get 0) (inside 0)
  refine ⟨valid, skipping, zeros, back, same.2 ⟨trivial, trivial, related⟩, ?_⟩
  refine Bool.eq_false_iff.2 fun equal => ?_
  exact absurd ((differ rfl).1 equal #v[0] #v[0] rfl (by decide)) (by decide)

end Strided
