import Mathlib.Algebra.BigOperators.Fin
import Strided.Shape.Traversal
import Strided.Tensor

/-! Where the elements of an array lie.

An offset is a sum over the dimensions, so two layouts can be compared one dimension at a time.
In a dense layout the offset of an element is its position in column-major order: the elements
fill a run of cells, one each. A window is backed when memory has a cell for each of its elements.
-/

set_option autoImplicit false

namespace Strided

variable {t : DType} {n : Nat}

namespace Layout

theorem travel_ofFn (steps : Fin n → Nat) (strides : Fin n → Int) :
    travel (List.ofFn steps) (List.ofFn strides) = ∑ d, (steps d : Int) * strides d := by
  induction n with
  | zero => simp [travel]
  | succ n ih =>
    rw [List.ofFn_succ, List.ofFn_succ, Fin.sum_univ_succ]
    simp only [travel, ih]

theorem offset_eq_sum (l : Layout n) (i : Index n) :
    l.offset i = ∑ d : Fin n, (i.get d : Int) * l.strides.stride d := by
  have steps : i.toList = List.ofFn i.get := by
    apply List.ext_getElem <;> simp [Vector.get]
  have strides : l.strides.toList = List.ofFn l.strides.stride := by
    apply List.ext_getElem <;> simp [Strides.toList, Strides.stride, Vector.get]
  rw [offset, ← travel_ofFn, ← steps, ← strides, Strides.toList]

theorem travel_scaled (e : Nat) (is weights : List Nat) :
    travel is ((weights.map (e * ·)).map Int.ofNat) = e * travel is (weights.map Int.ofNat) := by
  induction weights generalizing is with
  | nil => cases is <;> simp [travel]
  | cons w ws ih =>
    cases is with
    | nil => simp [travel]
    | cons i is =>
      simp only [List.map_cons, travel, ih, Int.mul_add]
      congr 1
      simp only [Int.ofNat_eq_natCast, Int.natCast_mul]
      exact Int.mul_left_comm _ _ _

theorem travel_weights (es is : List Nat) (same : is.length = es.length) :
    travel is ((Radix.weights es).map Int.ofNat) = Radix.value es is := by
  induction es generalizing is with
  | nil =>
    rw [List.length_eq_zero_iff.1 same]
    rfl
  | cons e es ih =>
    cases is with
    | nil => simp at same
    | cons i is =>
      have rest := ih is (by simpa using same)
      simp only [Radix.weights, List.map_cons, travel, travel_scaled, rest, Radix.value]
      simp

theorem offset_contiguous (s : Shape n) (i : Index n) : (contiguous s).offset i = s.position i :=
  travel_weights s.toList i.toList (by simp)

-- A dimension of extent 1 is never stepped along, so its stride does not matter.
theorem travel_of_denseFrom {weight : Int} {es is : List Nat} {rs : List Int}
    (dense : denseFrom weight es rs = true) (same : rs.length = es.length)
    (within : Radix.Within es is) : travel is rs = weight * Radix.value es is := by
  induction es generalizing weight is rs with
  | nil => cases is <;> simp_all [travel, Radix.value, Radix.Within]
  | cons e es ih =>
    cases is with
    | nil => exact within.elim
    | cons i is =>
      cases rs with
      | nil => cases same
      | cons r rs =>
        obtain ⟨step, dense⟩ := Bool.and_eq_true_iff.1 dense
        have rest := ih dense (Nat.succ.inj same) within.2
        have first : (i : Int) * r = weight * i := by
          rcases Bool.or_eq_true_iff.1 step with one | fits
          · have below := within.1
            obtain rfl : i = 0 := by simp at one; omega
            simp
          · rw [of_decide_eq_true fits, Int.mul_comm]
        rw [travel, rest, first, Radix.value]
        simp [Int.mul_add, Int.mul_assoc]

theorem offset_of_isContiguous {l : Layout n} (dense : l.isContiguous = true) {i : Index n}
    (inside : l.shape.Contains i) : l.offset i = l.shape.position i := by
  have lengths : l.strides.toList.length = l.shape.toList.length := by simp [Strides.toList]
  rw [offset, travel_of_denseFrom dense lengths (Shape.contains_iff_within.1 inside), Int.one_mul,
    Shape.position]

theorem denseFrom_weights (weight : Nat) (es : List Nat) :
    denseFrom weight es (((Radix.weights es).map (weight * ·)).map Int.ofNat) = true := by
  induction es generalizing weight with
  | nil => rfl
  | cons e es ih =>
    have rest := ih (weight * e)
    simp only [Int.natCast_mul] at rest
    simp only [Radix.weights, List.map_cons, denseFrom, Bool.and_eq_true_iff]
    refine ⟨by simp, ?_⟩
    rw [← rest]
    simp [Function.comp_def, Nat.mul_assoc]

theorem isContiguous_contiguous (s : Shape n) : (contiguous s).isContiguous = true := by
  have dense := denseFrom_weights 1 s.toList
  simp only [Nat.one_mul, List.map_id'] at dense
  exact dense

def Injective (l : Layout n) : Prop :=
  ∀ i j, l.shape.Contains i → l.shape.Contains j → l.offset i = l.offset j → i = j

theorem injective_contiguous (s : Shape n) : (contiguous s).Injective := by
  intro i j hi hj same
  rw [offset_contiguous, offset_contiguous, Int.ofNat_inj] at same
  calc
    i = s.unravel (s.position i) := (Shape.unravel_position hi).symm
    _ = s.unravel (s.position j) := by rw [same]
    _ = j := Shape.unravel_position hj

end Layout

theorem Memory.read?_isSome_iff {m : Memory} {a : Address} :
    (m.read? t a).isSome ↔ 0 ≤ a.cell ∧ a.cell < (m.cells t a.base).size := by
  unfold read?
  split
  · simp; omega
  · simp; omega

namespace Span

-- Every element of the window has a cell in memory.
def Backed (s : Span t n) (m : Memory) : Prop :=
  ∀ i, s.shape.Contains i → (m.read? t (s.cell i)).isSome

theorem cell_inj {s : Span t n} {i j : Index n} :
    s.cell i = s.cell j ↔ s.layout.offset i = s.layout.offset j := by
  simp [cell, Address.shift]

theorem Backed.read?_cell {s : Span t n} {m : Memory} (backed : s.Backed m) {i : Index n}
    (inside : s.shape.Contains i) : m.read? t (s.cell i) = some (s.read m i) := by
  obtain ⟨v, found⟩ := Option.isSome_iff_exists.1 (backed i inside)
  simp [read, Memory.read, found]

end Span

namespace Tensor

/-- The tensor is live, dense, and owns as many cells as it has elements. -/
structure Holds (x : Tensor t n) (m : Memory) : Prop where
  live : x.isMovedFrom = false
  dense : x.layout = .contiguous x.shape
  room : x.size ≤ (m.cells t x.storage.base).size

theorem Holds.injective {x : Tensor t n} {m : Memory} (holds : x.Holds m) :
    x.span.layout.Injective := by
  change x.layout.Injective
  rw [holds.dense]
  exact Layout.injective_contiguous x.shape

theorem Holds.backed {x : Tensor t n} {m : Memory} (holds : x.Holds m) : x.span.Backed m := by
  intro i inside
  rw [Memory.read?_isSome_iff]
  have within : x.shape.position i < x.size := Shape.position_lt_size inside
  have room := holds.room
  simp only [Span.cell, span, Storage.start, Address.start, Address.cell_shift,
    Address.base_shift]
  rw [holds.dense, Layout.offset_contiguous]
  omega

end Tensor

end Strided
