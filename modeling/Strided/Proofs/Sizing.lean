import Strided.Layout.Calculation
import Strided.Proofs.Addressing
import Strided.Proofs.Settling

/-! When sizes and strides are words.

The numbers on the way to the size and the strides of a shape are the products of its first extents.
If they are words, as well as the extents, then sizes, strides and the test for density are on words
what they are without a bound. An array with elements has them if its size is a word.
-/

set_option autoImplicit false

namespace Strided

variable {n : Nat}

namespace Radix

theorem size_take_le {es : List Nat} (filled : size es ≠ 0) (k : Nat) :
    size (es.take k) ≤ size es := by
  have parts : size (es.take k) * size (es.drop k) = size es := by
    rw [← size_append, List.take_append_drop]
  exact Nat.le_of_dvd (Nat.pos_of_ne_zero filled) ⟨_, parts.symm⟩

theorem le_size_of_mem {es : List Nat} (filled : size es ≠ 0) {e : Nat} (member : e ∈ es) :
    e ≤ size es := by
  obtain ⟨before, after, rfl⟩ := List.append_of_mem member
  have parts : size (before ++ e :: after) = e * (size before * size after) := by
    rw [size_append, size, Nat.mul_left_comm]
  exact Nat.le_of_dvd (Nat.pos_of_ne_zero filled) ⟨_, parts⟩

end Radix

/-- The extents are words, and so are the numbers of elements that the first dimensions span, which
are the strides of a dense array. -/
structure Shape.Addressable (s : Shape n) : Prop where
  extents : ∀ e ∈ s.toList, IsWord e
  spans : ∀ k, IsWord (Radix.size (s.toList.take k))

-- Only arrays without elements may have strides that are no words though their size is one.
theorem Shape.addressable_of_filled {s : Shape n} (filled : s.size ≠ 0) (small : IsWord s.size) :
    s.Addressable := by
  have within {k : Nat} (bound : k ≤ s.size) : IsWord k := by
    unfold IsWord at *
    omega
  exact ⟨fun e member => within (Radix.le_size_of_mem filled member),
    fun k => within (Radix.size_take_le filled k)⟩

theorem Shape.addressable_zeros : (.zeros : Shape n).Addressable := by
  have extents : (.zeros : Shape n).toList = List.replicate n 0 := by
    rw [toList, zeros, ofFn, Vector.toList_ofFn, List.ofFn_const]
  have size_le (k : Nat) : Radix.size (List.replicate k 0) ≤ 1 := by
    cases k <;> simp [Radix.size, List.replicate_succ]
  constructor
  · intro e member
    obtain ⟨-, rfl⟩ := List.mem_replicate.1 (extents ▸ member)
    decide
  · intro k
    rw [extents, List.take_replicate]
    have bound := size_le (min k n)
    unfold IsWord
    omega

open Calculation (Fits Settles fits_bind fits_pure)

namespace Shape

theorem unbounded_productSteps (product : Int) (es : List Nat) :
    (productSteps product es).unbounded = some (product * Radix.size es) := by
  induction es generalizing product with
  | nil => simp [productSteps, Radix.size]
  | cons e es ih => simp [productSteps, ih, Radix.size, Int.mul_assoc]

@[simp] theorem unbounded_sizeSteps (s : Shape n) : s.sizeSteps.unbounded = some s.size := by
  simp [sizeSteps, unbounded_productSteps, size]

theorem unbounded_weightsSteps (weight : Int) (es : List Nat) :
    (weightsSteps weight es).unbounded =
      some ⟨(Radix.weights es).map fun w : Nat => weight * w, by simp⟩ := by
  induction es generalizing weight with
  | nil => rfl
  | cons e es ih =>
    simp [weightsSteps, ih, Radix.weights, Function.comp_def, Int.mul_assoc]

@[simp] theorem unbounded_defaultStridesSteps (s : Shape n) :
    s.defaultStridesSteps.unbounded = some s.defaultStrides := by
  simp [defaultStridesSteps, unbounded_weightsSteps, defaultStrides]

end Shape

namespace Layout

@[simp] theorem unbounded_contiguousSteps (s : Shape n) :
    (contiguousSteps s).unbounded = some (contiguous s) := by
  simp [contiguousSteps, contiguous]

theorem unbounded_denseSteps (expected : Int) (es : List Nat) (rs : List Int) :
    (denseSteps expected es rs).unbounded = some (denseFrom expected es rs) := by
  induction es generalizing expected rs with
  | nil => simp [denseSteps, denseFrom]
  | cons e es ih =>
    cases rs with
    | nil => simp [denseSteps, denseFrom]
    | cons r rs =>
      rw [denseSteps, denseFrom]
      by_cases off : e ≠ 1 ∧ r ≠ expected
      · simp [off.1, off.2]
      · have on : e = 1 ∨ r = expected := by tauto
        simp [off, on, ih]

@[simp] theorem unbounded_isContiguousSteps (l : Layout n) :
    l.isContiguousSteps.unbounded = some l.isContiguous :=
  unbounded_denseSteps 1 _ _

theorem unbounded_travelSteps (distance : Int) (ks : List Nat) (rs : List Int) :
    (travelSteps distance ks rs).unbounded = some (distance + travel ks rs) := by
  induction ks generalizing distance rs with
  | nil => simp [travelSteps, travel]
  | cons k ks ih =>
    cases rs with
    | nil => simp [travelSteps, travel]
    | cons r rs => simp [travelSteps, travel, ih, Int.add_assoc]

@[simp] theorem unbounded_offsetSteps (l : Layout n) (i : Index n) :
    (l.offsetSteps i).unbounded = some (l.offset i) := by
  simp [offsetSteps, unbounded_travelSteps, offset]

end Layout

/-- The extents are words, and so are the numbers of elements that they span together with the
`span` before them. -/
structure Radix.Addressable (span : Nat) (es : List Nat) : Prop where
  extents : ∀ e ∈ es, IsWord e
  spans : ∀ k, IsWord ((span * size (es.take k) : Nat) : Int)

namespace Radix.Addressable

variable {span e : Nat} {es : List Nat} (addressable : Addressable span (e :: es))
include addressable

theorem head : IsWord e :=
  addressable.extents e List.mem_cons_self

theorem span_head : IsWord ((span * e : Nat) : Int) := by
  simpa [size] using addressable.spans 1

theorem tail : Addressable (span * e) es where
  extents := fun f member => addressable.extents f (List.mem_cons_of_mem e member)
  spans k := by simpa [size, Nat.mul_assoc] using addressable.spans (k + 1)

end Radix.Addressable

namespace Shape

theorem fits_productSteps {span : Nat} {es : List Nat} (addressable : Radix.Addressable span es) :
    (productSteps span es).Fits := by
  induction es generalizing span with
  | nil => exact fits_pure _
  | cons e es ih =>
    have word := addressable.span_head
    rw [productSteps, fits_bind (Calculation.unbounded_computeUnsigned _),
      Calculation.fits_computeUnsigned]
    refine ⟨?_, ?_⟩
    · simp only [IsWord, Int.natCast_mul] at word
      have nonneg := Int.mul_nonneg (Int.natCast_nonneg span) (Int.natCast_nonneg e)
      omega
    · exact_mod_cast ih addressable.tail

theorem fits_weightsSteps {span : Nat} {es : List Nat} (addressable : Radix.Addressable span es) :
    (weightsSteps span es).Fits := by
  induction es generalizing span with
  | nil => exact fits_pure _
  | cons e es ih =>
    have word := addressable.span_head
    have rest := ih addressable.tail
    rw [Int.natCast_mul] at word rest
    rw [weightsSteps, fits_bind (Calculation.unbounded_cast _), Calculation.fits_cast,
      fits_bind (Calculation.unbounded_compute _), Calculation.fits_compute,
      fits_bind (unbounded_weightsSteps _ _)]
    exact ⟨addressable.head, word, rest, fits_pure _⟩

end Shape

theorem Layout.fits_denseSteps {span : Nat} {es : List Nat}
    (addressable : Radix.Addressable span es) (rs : List Int) : (denseSteps span es rs).Fits := by
  induction es generalizing span rs with
  | nil => exact fits_pure _
  | cons e es ih =>
    cases rs with
    | nil => exact fits_pure _
    | cons r rs =>
      rw [denseSteps]
      split
      · exact fits_pure _
      · have word := addressable.span_head
        have rest := ih addressable.tail rs
        rw [Int.natCast_mul] at word rest
        rw [fits_bind (Calculation.unbounded_cast _), Calculation.fits_cast,
          fits_bind (Calculation.unbounded_compute _), Calculation.fits_compute]
        exact ⟨addressable.head, word, rest⟩

namespace Layout

theorem within_zeros {es ks : List Nat} (within : Radix.Within es ks) :
    Radix.Within es (List.replicate ks.length 0) := by
  fun_induction Radix.Within es ks with
  | case1 => trivial
  | case2 e es k ks ih => exact ⟨Nat.zero_lt_of_lt within.1, ih within.2⟩
  | case3 => exact within.elim

theorem travel_zeros (length : Nat) (rs : List Int) :
    travel (List.replicate length 0) rs = 0 := by
  induction length generalizing rs with
  | zero => cases rs <;> rfl
  | succ length ih => cases rs <;> simp [List.replicate_succ, travel, ih]

-- A number on the way is the distance to an element along one dimension, or that to the element
-- with the components so far.
theorem fits_travelSteps_of_box {distance : Int} {es ks : List Nat} {rs : List Int}
    (within : Radix.Within es ks) (extents : ∀ e ∈ es, IsWord e)
    (ahead : ∀ js, Radix.Within es js → IsWord (distance + travel js rs))
    (alone : ∀ js, Radix.Within es js → IsWord (travel js rs)) :
    (travelSteps distance ks rs).Fits := by
  induction es generalizing distance ks rs with
  | nil =>
    cases ks with
    | nil => exact Calculation.fits_pure _
    | cons k ks => exact within.elim
  | cons e es ih =>
    cases ks with
    | nil => exact within.elim
    | cons k ks =>
      cases rs with
      | nil => exact Calculation.fits_pure _
      | cons r rs =>
        obtain ⟨word, extents⟩ := List.forall_mem_cons.1 extents
        have inside : k < e := within.1
        have first : Radix.Within (e :: es) (k :: List.replicate ks.length 0) :=
          ⟨inside, within_zeros within.2⟩
        have short : IsWord (k : Int) := by
          unfold IsWord at *
          omega
        have step := alone _ first
        have sum := ahead _ first
        rw [travel, travel_zeros, Int.add_zero] at step sum
        rw [travelSteps, Calculation.fits_bind (Calculation.unbounded_cast _),
          Calculation.fits_cast, Calculation.fits_bind (Calculation.unbounded_compute _),
          Calculation.fits_compute, Calculation.fits_bind (Calculation.unbounded_compute _),
          Calculation.fits_compute]
        refine ⟨short, step, sum, ih within.2 extents (fun js rest => ?_) fun js rest => ?_⟩
        · simpa [travel, Int.add_assoc] using ahead (k :: js) ⟨inside, rest⟩
        · simpa [travel] using alone (0 :: js) ⟨Nat.zero_lt_of_lt inside, rest⟩

end Layout

namespace Shape.Addressable

variable {s : Shape n} (addressable : s.Addressable)
include addressable

theorem toList : Radix.Addressable 1 s.toList where
  extents := addressable.extents
  spans k := by simpa using addressable.spans k

theorem sizeSteps : s.sizeSteps.Settles s.size := by
  have fits : s.sizeSteps.Fits := by
    rw [Shape.sizeSteps, fits_bind (unbounded_productSteps _ _)]
    exact ⟨fits_productSteps addressable.toList, fits_pure _⟩
  exact fits.settles (unbounded_sizeSteps s)

theorem defaultStridesSteps : s.defaultStridesSteps.Settles s.defaultStrides := by
  have fits : s.defaultStridesSteps.Fits := by
    rw [Shape.defaultStridesSteps, fits_bind (unbounded_weightsSteps _ _)]
    exact ⟨fits_weightsSteps addressable.toList, fits_pure _⟩
  exact fits.settles (unbounded_defaultStridesSteps s)

theorem contiguousSteps : (Layout.contiguousSteps s).Settles (.contiguous s) :=
  addressable.defaultStridesSteps.bind (Calculation.settles_pure _)

theorem size_word : IsWord s.size := by
  have whole := addressable.spans s.toList.length
  rwa [List.take_length] at whole

theorem isWord_of_mem {i : Index n} (inside : s.Contains i) {k : Nat} (member : k ∈ i.toList) :
    IsWord k := by
  obtain ⟨d, bound, rfl⟩ := List.getElem_of_mem member
  have length : i.toList.length = n := Vector.length_toList
  have below : i.toList[d] < s.extent ⟨d, length ▸ bound⟩ := by
    simpa using inside ⟨d, length ▸ bound⟩
  have word := addressable.extents (s.extent ⟨d, length ▸ bound⟩)
    (by simp [Shape.extent, Shape.toList])
  unfold IsWord at word ⊢
  omega

theorem offsetSteps {i : Index n} (inside : s.Contains i) :
    ((Layout.contiguous s).offsetSteps i).Settles ((Layout.contiguous s).offset i) := by
  have size := addressable.size_word
  have placed (js : List Nat) (within : Radix.Within s.toList js) :
      IsWord (Layout.travel js (Layout.contiguous s).strides.toList) := by
    have below : Radix.value s.toList js < s.size := Radix.value_lt_size within
    have travelled : Layout.travel js (Layout.contiguous s).strides.toList =
        Radix.value s.toList js :=
      Layout.travel_weights s.toList js (Radix.Within.length_eq within)
    unfold IsWord at size ⊢
    omega
  have fits : ((Layout.contiguous s).offsetSteps i).Fits :=
    Layout.fits_travelSteps_of_box (Shape.contains_iff_within.1 inside) addressable.extents
      (fun js within => by simpa using placed js within) placed
  exact fits.settles (Layout.unbounded_offsetSteps _ i)

end Shape.Addressable

theorem Layout.isContiguousSteps_of_addressable {l : Layout n} (addressable : l.shape.Addressable) :
    l.isContiguousSteps.Settles l.isContiguous :=
  Fits.settles (fits_denseSteps addressable.toList _) (unbounded_isContiguousSteps l)

end Strided
