import Strided.Proofs.Odometer
import Strided.Proofs.Sizing

/-! Which arrays lie densely.

The test for it compares strides, and leaves out dimensions of extent 1. In a shape with elements
its answer is that of the offsets: the strides are the expected ones if and only if every element
lies at its position in column-major order. A dimension of another extent has an index that takes
one step along it and none along the others, and there its stride shows.

On words this holds where the number of elements is one. A stride of a dense array is then a word,
and so is every number on the way to one of its offsets.
-/

set_option autoImplicit false

namespace Strided

variable {n : Nat}

namespace Shape

def step (d : Fin n) : Index n :=
  Vector.ofFn fun e => if e = d then 1 else 0

theorem get_step (d e : Fin n) : (step d).get e = if e = d then 1 else 0 :=
  Vector.getElem_ofFn e.isLt

theorem extent_pos {s : Shape n} (filled : s.size ≠ 0) (d : Fin n) : 0 < s.extent d :=
  Nat.zero_lt_of_lt (contains_unravel (Nat.pos_of_ne_zero filled) d)

theorem contains_step {s : Shape n} (filled : s.size ≠ 0) {d : Fin n} (wide : s.extent d ≠ 1) :
    s.Contains (step d) := by
  intro e
  change (step d).get e < s.extent e
  have some := extent_pos filled e
  rw [get_step]
  split
  · rename_i same
    subst same
    omega
  · exact some

theorem getElem?_indices_eq_some_iff {s : Shape n} {k : Nat} {i : Index n} :
    s.indices[k]? = some i ↔ s.Contains i ∧ s.position i = k := by
  rw [indices_eq_map_unravel, List.getElem?_map, Option.map_eq_some_iff]
  constructor
  · rintro ⟨j, counted, rfl⟩
    obtain ⟨below, rfl⟩ := List.getElem?_eq_some_iff.1 counted
    rw [List.getElem_range]
    have below := List.length_range ▸ below
    exact ⟨contains_unravel below, position_unravel below⟩
  · rintro ⟨inside, rfl⟩
    exact ⟨s.position i, List.getElem?_range (position_lt_size inside), unravel_position inside⟩

end Shape

namespace Layout

variable {l : Layout n}

theorem offset_step (l : Layout n) (d : Fin n) : l.offset (Shape.step d) = l.strides.stride d := by
  simp [offset_eq_sum, Shape.get_step]

-- What the test expects of a dimension is the product of the extents before it.
theorem denseFrom_iff {weight : Int} {es : List Nat} {rs : List Int}
    (same : rs.length = es.length) :
    denseFrom weight es rs = true ↔
      ∀ (d : Nat) (h : d < es.length), es[d] = 1 ∨ rs[d] = weight * Radix.size (es.take d) := by
  induction es generalizing weight rs with
  | nil => simp [denseFrom]
  | cons e es ih =>
    cases rs with
    | nil => cases same
    | cons r rs =>
      have first : (e = 1 || r = weight) = true ↔ e = 1 ∨ r = weight * Radix.size [] := by
        simp [Radix.size]
      have shift (d : Nat) :
          weight * e * Radix.size (es.take d) = weight * Radix.size (e :: es.take d) := by
        simp [Radix.size, Int.mul_assoc]
      rw [denseFrom, Bool.and_eq_true, first, ih (Nat.succ.inj same)]
      constructor
      · rintro ⟨here, rest⟩ (_ | d) h
        · exact here
        · simpa [shift] using rest d (Nat.lt_of_succ_lt_succ h)
      · intro all
        refine ⟨all 0 (Nat.zero_lt_succ _), fun d h => ?_⟩
        simpa [shift] using all (d + 1) (Nat.succ_lt_succ h)

theorem isContiguous_iff_stride :
    l.isContiguous = true ↔
      ∀ d, l.shape.extent d = 1 ∨ l.strides.stride d = l.shape.defaultStrides.stride d := by
  have lengths : l.strides.toList.length = l.shape.toList.length := by simp [Strides.toList]
  rw [isContiguous, denseFrom_iff lengths]
  simp only [Shape.length_toList, Int.one_mul, Fin.forall_iff, Shape.stride_defaultStrides]
  rfl

theorem isContiguous_iff_offset (filled : l.size ≠ 0) :
    l.isContiguous = true ↔ ∀ i, l.shape.Contains i → l.offset i = l.shape.position i := by
  constructor
  · intro dense i inside
    exact offset_of_isContiguous dense inside
  · intro placed
    rw [isContiguous_iff_stride]
    intro d
    by_cases unit : l.shape.extent d = 1
    · exact Or.inl unit
    · right
      calc
        l.strides.stride d = l.offset (Shape.step d) := (l.offset_step d).symm
        _ = l.shape.position (Shape.step d) := placed _ (Shape.contains_step filled unit)
        _ = (contiguous l.shape).offset (Shape.step d) := (offset_contiguous _ _).symm
        _ = l.shape.defaultStrides.stride d := (contiguous l.shape).offset_step d

-- Before a dimension the distance is below the stride there, after it below that of the next one.
theorem fits_travelSteps_of_dense {distance span : Nat} {es ks : List Nat} {rs : List Int}
    (addressable : Radix.Addressable span es) (within : Radix.Within es ks)
    (dense : denseFrom span es rs = true) (below : distance < span) :
    (travelSteps distance ks rs).Fits := by
  induction es generalizing distance span ks rs with
  | nil =>
    cases ks with
    | nil => exact Calculation.fits_pure _
    | cons k ks => exact within.elim
  | cons e es ih =>
    cases ks with
    | nil => exact within.elim
    | cons k ks =>
      cases rs with
      | nil => exact Calculation.fits_pure _
      | cons r rs =>
        obtain ⟨expected, dense⟩ := Bool.and_eq_true_iff.1 dense
        have inside : k < e := within.1
        have step : (k : Int) * r = (k * span : Nat) := by
          rcases Bool.or_eq_true_iff.1 expected with unit | same
          · obtain rfl : k = 0 := by simp at unit; omega
            simp
          · rw [of_decide_eq_true same, Int.natCast_mul]
        have room : distance + k * span < span * e := by
          have bound : (k + 1) * span ≤ e * span := Nat.mul_le_mul_right span inside
          rw [Nat.mul_comm span e]
          rw [Nat.succ_mul] at bound
          omega
        have word : IsWord ((span * e : Nat) : Int) := addressable.span_head
        have short : IsWord (k : Int) := by
          have := addressable.head
          unfold IsWord at *
          omega
        have rest := ih addressable.tail within.2 (by exact_mod_cast dense) room
        rw [travelSteps, Calculation.fits_bind (Calculation.unbounded_cast _),
          Calculation.fits_cast, Calculation.fits_bind (Calculation.unbounded_compute _),
          Calculation.fits_compute, Calculation.fits_bind (Calculation.unbounded_compute _),
          Calculation.fits_compute, step]
        refine ⟨short, ?_, ?_, by exact_mod_cast rest⟩ <;>
        · unfold IsWord at *
          omega

theorem settles_offsetSteps_of_isContiguous (addressable : l.shape.Addressable)
    (dense : l.isContiguous = true) {i : Index n} (inside : l.shape.Contains i) :
    (l.offsetSteps i).Settles (l.shape.position i) := by
  have fits : (l.offsetSteps i).Fits := fits_travelSteps_of_dense addressable.toList
    (Shape.contains_iff_within.1 inside) dense Nat.zero_lt_one
  have found := l.unbounded_offsetSteps i
  rw [offset_of_isContiguous dense inside] at found
  exact fits.settles found

-- An index inside has components that are words, so that only a result can be none.
theorem travel_of_checked {distance v : Int} {ks : List Nat} {rs : List Int}
    (words : ∀ k ∈ ks, IsWord k) (found : (travelSteps distance ks rs).checked = some v) :
    distance + travel ks rs = v := by
  induction ks generalizing distance rs with
  | nil => simpa [travelSteps, travel] using Option.some.inj found
  | cons k ks ih =>
    cases rs with
    | nil => simpa [travelSteps, travel] using Option.some.inj found
    | cons r rs =>
      obtain ⟨short, words⟩ := List.forall_mem_cons.1 words
      rw [travelSteps, Calculation.checked_bind_eq_some_iff] at found
      obtain ⟨_, same, found⟩ := found
      obtain rfl := Option.some.inj ((Calculation.checked_cast short).symm.trans same)
      obtain ⟨_, step, found⟩ := Calculation.checked_bind_eq_some_iff.1 found
      obtain ⟨-, rfl⟩ := Calculation.checked_compute_eq_some_iff.1 step
      obtain ⟨_, sum, found⟩ := Calculation.checked_bind_eq_some_iff.1 found
      obtain ⟨-, rfl⟩ := Calculation.checked_compute_eq_some_iff.1 sum
      rw [travel, ← Int.add_assoc]
      exact ih words found

theorem offset_of_settles (addressable : l.shape.Addressable) {i : Index n}
    (inside : l.shape.Contains i) {v : Int} (settles : (l.offsetSteps i).Settles v) :
    l.offset i = v := by
  exact (Int.zero_add _).symm.trans
    (travel_of_checked (fun _ => addressable.isWord_of_mem inside) settles.checked)

/-- In a shape with elements, the test for density passes if and only if the offsets count the
elements in the order in which they are visited, as they do in the dense array of that shape. -/
theorem isContiguous_exact (filled : l.size ≠ 0) (small : IsWord l.size) :
    ∃ dense, l.isContiguousSteps.Settles dense ∧
      (dense = true ↔
        ∀ (k : Nat) i, l.shape.indices[k]? = some i → (l.offsetSteps i).Settles k) ∧
      (dense = true ↔ ∀ i, l.shape.Contains i →
        ∃ v, (l.offsetSteps i).Settles v ∧ ((contiguous l.shape).offsetSteps i).Settles v) := by
  have addressable := Shape.addressable_of_filled filled small
  have placed {i : Index n} (inside : l.shape.Contains i) :
      ((contiguous l.shape).offsetSteps i).Settles (l.shape.position i) :=
    settles_offsetSteps_of_isContiguous (l := contiguous l.shape) addressable
      (isContiguous_contiguous l.shape) inside
  refine ⟨_, isContiguousSteps_of_addressable addressable, ⟨?_, ?_⟩, ?_, ?_⟩
  · rintro dense k i visited
    obtain ⟨inside, rfl⟩ := Shape.getElem?_indices_eq_some_iff.1 visited
    exact settles_offsetSteps_of_isContiguous addressable dense inside
  · intro counted
    refine (isContiguous_iff_offset filled).2 fun i inside => ?_
    have visited := Shape.getElem?_indices_eq_some_iff.2 ⟨inside, rfl⟩
    exact offset_of_settles addressable inside (counted _ i visited)
  · intro dense i inside
    exact ⟨_, settles_offsetSteps_of_isContiguous addressable dense inside, placed inside⟩
  · intro alike
    refine (isContiguous_iff_offset filled).2 fun i inside => ?_
    obtain ⟨v, settles, other⟩ := alike i inside
    rw [(placed inside).unique other]
    exact offset_of_settles addressable inside settles

-- Two columns of three, with a dimension of extent 1 between them whose stride is not looked at.
def unusedStride : Layout 3 :=
  ⟨⟨#v[3, 1, 2]⟩, ⟨#v[1, -7, 3]⟩⟩

theorem isContiguous_exact_unusedStride :
    unusedStride.size ≠ 0 ∧ IsWord unusedStride.size ∧
      ∀ (k : Nat) i, unusedStride.shape.indices[k]? = some i →
        (unusedStride.offsetSteps i).Settles k := by
  have filled : unusedStride.size ≠ 0 := by decide
  have small : IsWord unusedStride.size := by decide
  obtain ⟨dense, settles, counted, -⟩ := isContiguous_exact filled small
  have passes : unusedStride.isContiguousSteps.Settles true := ⟨rfl, rfl⟩
  exact ⟨filled, small, counted.1 (settles.unique passes)⟩

-- The number of elements of the first dimension is -1 as a signed word.
def backwardRows : Layout 2 :=
  ⟨⟨#v[18446744073709551615, 2]⟩, ⟨#v[1, -1]⟩⟩

theorem isContiguousSteps_of_backwardRows :
    backwardRows.size ≠ 0 ∧ backwardRows.isContiguousSteps.Settles true ∧
      backwardRows.shape.Contains #v[0, 1] ∧ (backwardRows.offsetSteps #v[0, 1]).Settles (-1) ∧
      backwardRows.shape.position #v[0, 1] = 18446744073709551615 ∧
      (contiguous ⟨#v[4611686018427387904, 2]⟩).isContiguousSteps.checked = none := by
  refine ⟨by decide, ⟨by decide +kernel, by decide +kernel⟩, by decide, ⟨?_, ?_⟩, by decide, ?_⟩ <;>
    decide +kernel

end Layout

end Strided
