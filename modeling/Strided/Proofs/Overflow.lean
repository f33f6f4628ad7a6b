import Strided.Proofs.Faults
import Strided.Proofs.Sizing

/-! Where slicing a dense array goes beyond words.

A calculation whose numbers are all words comes to the same on words as without a bound. For the
slices of a dense array whose sizes are words every number on the way is one, except that a step
may be too large: to be added to the distance that a range covers, or to be multiplied with a
stride. `StepFits` says that it is not, and with large steps only slicing on words differs.
-/

set_option autoImplicit false

namespace Strided

open Calculation (Fits fits_bind fits_compute fits_pure fits_require unbounded_compute
  unbounded_require unbounded_pure castless_bind castless_compute castless_ofOption castless_pure
  castless_require)

namespace Slice

/-! No operation of slicing is a cast. -/

theorem castless_fromStartSteps (extent : Nat) (position : Int) :
    (fromStartSteps extent position).Castless := by
  unfold fromStartSteps
  split
  · exact castless_compute _
  · exact castless_pure _

theorem castless_boundSteps (extent : Nat) (low high natural : Int) (given : Option Int) :
    (boundSteps extent low high natural given).Castless := by
  have clamped (x : Int) : (clampSteps low high x).Castless :=
    castless_bind (castless_require _) fun _ => castless_pure _
  cases given with
  | none => exact clamped natural
  | some position => exact castless_bind (castless_fromStartSteps extent position) clamped

theorem castless_divideUpSteps (distance size : Int) : (divideUpSteps distance size).Castless :=
  castless_bind (castless_compute _) fun _ => castless_bind (castless_compute _) fun _ =>
    castless_bind (castless_require _) fun _ => castless_compute _

theorem castless_runSteps (extent : Nat) (start stop : Option Int) (step : Int) :
    (runSteps extent start stop step).Castless := by
  unfold runSteps
  split
  · exact castless_bind (castless_boundSteps _ _ _ _ _) fun _ =>
      castless_bind (castless_boundSteps _ _ _ _ _) fun _ =>
      castless_bind (castless_compute _) fun _ =>
      castless_bind (castless_divideUpSteps _ _) fun _ => castless_pure _
  · exact castless_bind (castless_compute _) fun _ =>
      castless_bind (castless_boundSteps _ _ _ _ _) fun _ =>
      castless_bind (castless_boundSteps _ _ _ _ _) fun _ =>
      castless_bind (castless_compute _) fun _ => castless_bind (castless_compute _) fun _ =>
      castless_bind (castless_divideUpSteps _ _) fun _ => castless_pure _

theorem castless_moveSteps (distance position stride : Int) :
    (moveSteps distance position stride).Castless :=
  castless_bind (castless_compute _) fun _ => castless_compute _

theorem castless_axisSteps (dim : Nat) (a : Axis) (distance : Int) (entry : Slice) :
    (axisSteps dim a distance entry).Castless := by
  cases entry with
  | all | newAxis => exact castless_pure _
  | index position =>
    refine castless_bind (castless_fromStartSteps _ _) fun p => ?_
    split
    · exact castless_bind (castless_moveSteps _ _ _) fun _ => castless_pure _
    · exact castless_pure _
  | range start stop step =>
    rw [axisSteps]
    split
    · exact castless_pure _
    · refine castless_bind (castless_runSteps _ _ _ _) fun r => ?_
      obtain ⟨first, count⟩ := r
      have entered : (enterSteps distance first count a.stride).Castless := by
        unfold enterSteps
        split
        · exact castless_moveSteps _ _ _
        · exact castless_pure _
      exact castless_bind entered fun _ =>
        castless_bind (castless_compute _) fun _ => castless_pure _

theorem castless_axesSteps (axes : List Axis) (dim : Nat) (kept : List Axis) (distance : Int)
    (entries : List Slice) : (axesSteps axes dim kept distance entries).Castless := by
  induction entries generalizing dim kept distance with
  | nil => exact castless_pure _
  | cons entry entries ih =>
    by_cases axis : entry = newAxis
    · subst axis
      exact ih _ _ _
    · rw [axesSteps_cons axis]
      refine castless_bind (castless_ofOption _) fun a =>
        castless_bind (castless_axisSteps _ _ _ _) fun outcome => ?_
      split
      · exact ih _ _ _
      · exact castless_pure _

/-- The numbers of an entry are words. -/
def Worded : Slice → Prop
  | index p => IsWord p
  | range start stop step => (∀ p ∈ start, IsWord p) ∧ (∀ p ∈ stop, IsWord p) ∧ IsWord step
  | all | newAxis => True

/-- How far it is from the first position of a range to its end, in the direction of the range. -/
def reach (extent : Nat) (start stop : Option Int) (step : Int) : Int :=
  max (if 0 < step then
      settle extent 0 extent extent stop - settle extent 0 extent 0 start
    else
      settle extent (-1) (extent - 1) (extent - 1) start -
        settle extent (-1) (extent - 1) (-1) stop) 0

/-- The step of a range is not too large: one more step than it takes, and one step along the
dimension, are words. -/
def StepFits (a : Axis) : Slice → Prop
  | range start stop step =>
    step ≠ 0 → IsWord (reach a.extent start stop step + step.natAbs) ∧ IsWord (a.stride * step)
  | all | index _ | newAxis => True

section
variable {extent : Nat} (small : IsWord extent)
include small

theorem fits_fromStartSteps {p : Int} (word : IsWord p) : (fromStartSteps extent p).Fits := by
  unfold fromStartSteps
  split
  · simp only [fits_compute, IsWord] at *
    omega
  · exact fits_pure p

theorem fits_boundSteps {low high natural : Int} (ordered : low ≤ high) {given : Option Int}
    (words : ∀ p ∈ given, IsWord p) : (boundSteps extent low high natural given).Fits := by
  have clamped (x : Int) : (clampSteps low high x).Fits := by
    rw [clampSteps, fits_bind (unbounded_require ordered)]
    exact ⟨fits_require _, fits_pure _⟩
  cases given with
  | none => exact clamped natural
  | some p =>
    rw [boundSteps, fits_bind (unbounded_fromStartSteps extent p)]
    exact ⟨fits_fromStartSteps small (words p rfl), clamped _⟩

end

theorem fits_divideUpSteps {distance size : Int} (ahead : 0 ≤ distance) (positive : 0 < size) :
    (divideUpSteps distance size).Fits ↔ IsWord (distance + size) := by
  have nonzero : size ≠ 0 := Int.ne_of_gt positive
  have numerator : 0 ≤ distance + size - 1 := by omega
  have quotient : (distance + size - 1).tdiv size = (distance + size - 1) / size :=
    Int.tdiv_eq_ediv_of_nonneg numerator
  have above := Int.ediv_le_self size numerator
  have below := Int.ediv_nonneg numerator (Int.le_of_lt positive)
  rw [divideUpSteps, fits_bind (unbounded_compute _), fits_bind (unbounded_compute _),
    fits_bind (unbounded_require nonzero)]
  simp only [fits_compute, fits_require, quotient, IsWord, true_and]
  omega

theorem fits_runSteps {extent : Nat} (small : IsWord extent) {start stop : Option Int} {step : Int}
    (moves : step ≠ 0) (words : (range start stop step).Worded) :
    (runSteps extent start stop step).Fits ↔
      IsWord (reach extent start stop step + step.natAbs) := by
  obtain ⟨startWord, stopWord, -⟩ := words
  unfold runSteps reach
  split
  · rename_i forward
    have ordered : (0 : Int) ≤ extent := Int.natCast_nonneg extent
    have first := unbounded_boundSteps_up (Int.le_refl 0) ordered start
    have last := unbounded_boundSteps_up ordered (Int.le_refl extent) stop
    have low := settle_bounds extent 0 extent 0 start
    have high := settle_bounds extent 0 extent extent stop
    rw [fits_bind first, fits_bind last, fits_bind (unbounded_compute _),
      fits_bind (unbounded_divideUpSteps forward), fits_divideUpSteps (by omega) forward]
    simp only [fits_boundSteps small ordered startWord, fits_boundSteps small ordered stopWord,
      fits_compute, fits_pure, true_and, and_true, Int.natAbs_of_nonneg (Int.le_of_lt forward)]
    simp only [IsWord] at small ⊢
    omega
  · have size : 0 < -step := by omega
    have ordered : (-1 : Int) ≤ extent - 1 := by omega
    have first := unbounded_boundSteps_down ordered (Int.le_refl _) start
    have last := unbounded_boundSteps_down (Int.le_refl _) ordered stop
    have low := settle_bounds extent (-1) (extent - 1) (extent - 1) start
    have high := settle_bounds extent (-1) (extent - 1) (-1) stop
    rw [fits_bind (unbounded_compute _), fits_bind first, fits_bind last,
      fits_bind (unbounded_compute _), fits_bind (unbounded_compute _),
      fits_bind (unbounded_divideUpSteps size), fits_divideUpSteps (by omega) size]
    simp only [fits_boundSteps small ordered startWord, fits_boundSteps small ordered stopWord,
      fits_compute, fits_pure, true_and, and_true]
    have positive : (step.natAbs : Int) = -step := by omega
    rw [positive]
    simp only [IsWord] at small ⊢
    omega

theorem fits_moveSteps {distance position stride : Int} :
    (moveSteps distance position stride).Fits ↔
      IsWord (position * stride) ∧ IsWord (distance + position * stride) := by
  rw [moveSteps, fits_bind (unbounded_compute _), fits_compute, fits_compute]

/-- A distance that was gone along the first dimensions of an array stays among the elements that
these span. Where they span none it stays a word. -/
structure Spanned (span : Nat) (distance : Int) : Prop where
  nonneg : 0 ≤ distance
  word : IsWord distance
  below : span ≠ 0 → distance < span

section
variable {span extent : Nat} {distance : Int}

theorem Spanned.go (spanned : Spanned span distance) (room : IsWord ((span * extent : Nat) : Int))
    {p : Int} (first : 0 ≤ p) (last : p < extent) :
    IsWord (p * span) ∧ Spanned (span * extent) (distance + p * span) := by
  obtain ⟨nonneg, word, below⟩ := spanned
  by_cases empty : span = 0
  · subst empty
    simpa [IsWord] using Spanned.mk nonneg word (by simp)
  · have covered := Int.mul_le_mul_of_nonneg_right (show p + 1 ≤ extent by omega)
      (Int.natCast_nonneg span)
    have ahead := Int.mul_nonneg first (Int.natCast_nonneg span)
    have before := below empty
    rw [Int.add_mul, Int.one_mul, Int.mul_comm (extent : Int)] at covered
    simp only [IsWord, Int.natCast_mul] at room ⊢
    refine ⟨by omega, ⟨by omega, by simp only [IsWord]; omega, fun _ => ?_⟩⟩
    rw [Int.natCast_mul]
    omega

theorem Spanned.stay (spanned : Spanned span distance) : Spanned (span * extent) distance := by
  obtain ⟨nonneg, word, below⟩ := spanned
  refine ⟨nonneg, word, fun some => ?_⟩
  obtain ⟨nonempty, extended⟩ := Nat.mul_ne_zero_iff.1 some
  have more := Nat.le_mul_of_pos_right span (Nat.pos_of_ne_zero extended)
  have before := below nonempty
  omega

end

theorem run_first_within {extent : Nat} {start stop : Option Int} {step : Int} (moves : step ≠ 0)
    (some : (run extent start stop step).count ≠ 0) :
    0 ≤ (run extent start stop step).first ∧ (run extent start stop step).first < extent := by
  simpa using run_within moves (k := 0) (Nat.pos_of_ne_zero some)

section
variable {a : Axis} {span : Nat} {distance : Int} (stride : a.stride = span)
  (room : IsWord ((span * a.extent : Nat) : Int)) (spanned : Spanned span distance)
include stride room spanned

theorem Spanned.onAxis {dim : Nat} {entry : Slice} {head : Option Axis} {near : Int}
    (ok : entry.onAxis dim a = .ok (head, near)) :
    Spanned (span * a.extent) (distance + near) := by
  cases entry with
  | all | newAxis =>
    obtain ⟨-, rfl⟩ := Prod.mk.inj (Except.ok.inj ok)
    rw [Int.add_zero]
    exact spanned.stay
  | index p =>
    rw [Slice.onAxis] at ok
    split at ok
    · rename_i inside
      obtain ⟨-, rfl⟩ := Prod.mk.inj (Except.ok.inj ok)
      rw [stride]
      exact (spanned.go room inside.1 inside.2).2
    · cases ok
  | range start stop step =>
    rw [Slice.onAxis] at ok
    split at ok
    · cases ok
    · rename_i moves
      obtain ⟨-, rfl⟩ := Prod.mk.inj (Except.ok.inj ok)
      split
      · rw [Int.add_zero]
        exact spanned.stay
      · rename_i some
        obtain ⟨first, last⟩ := run_first_within moves some
        rw [stride]
        exact (spanned.go room first last).2

theorem fits_move {p : Int} (first : 0 ≤ p) (last : p < a.extent) :
    (moveSteps distance p a.stride).Fits := by
  obtain ⟨further, there⟩ := spanned.go room first last
  rw [fits_moveSteps, stride]
  exact ⟨further, there.word⟩

theorem fits_enterSteps {r : Run} (within : r.count ≠ 0 → 0 ≤ r.first ∧ r.first < a.extent) :
    (enterSteps distance r.first r.count a.stride).Fits := by
  unfold enterSteps
  split
  · rename_i some
    obtain ⟨first, last⟩ := within (by omega)
    exact fits_move stride room spanned first last
  · exact fits_pure _

-- Only the step of a range may be too large.
theorem fits_axisSteps (small : IsWord a.extent) {dim : Nat} {entry : Slice}
    (words : entry.Worded) : (axisSteps dim a distance entry).Fits ↔ entry.StepFits a := by
  cases entry with
  | all | newAxis => exact iff_of_true (fits_pure _) trivial
  | index p =>
    refine iff_of_true ?_ trivial
    rw [axisSteps, fits_bind (unbounded_fromStartSteps _ _)]
    refine ⟨fits_fromStartSteps small words, ?_⟩
    split
    · rename_i inside
      rw [fits_bind (unbounded_moveSteps _ _ _)]
      exact ⟨fits_move stride room spanned inside.1 inside.2, fits_pure _⟩
    · exact fits_pure _
  | range start stop step =>
    rw [axisSteps]
    split
    · rename_i still
      exact iff_of_true (fits_pure _) fun moves => absurd still moves
    · rename_i moves
      have entered : (enterSteps distance (run a.extent start stop step).first
          (run a.extent start stop step).count a.stride).Fits :=
        fits_enterSteps stride room spanned (run_first_within moves)
      rw [fits_bind (unbounded_runSteps _ _ _ moves), fits_runSteps small moves words,
        fits_bind (unbounded_enterSteps _ _ _ _), fits_bind (unbounded_compute _)]
      simp [entered, StepFits, moves]

end

/-- The axes of a dense array in which extents and strides are words, from an axis on: `span` is the
number of elements that the dimensions before it span. -/
def DenseFrom (span : Nat) : List Axis → Prop
  | [] => True
  | a :: axes =>
    a.stride = span ∧ IsWord a.extent ∧ IsWord ((span * a.extent : Nat) : Int) ∧
      DenseFrom (span * a.extent) axes

/-- No step of a range is too large, up to the first entry at fault. -/
def StepsFit (axes : List Axis) (entries : List Slice) : Prop :=
  ∀ d a entry, axes[d]? = some a → entryFor? entries d = some entry →
    (∀ d' < d, ∀ fault, ¬ FaultAt (axes.map Axis.extent) entries d' fault) → entry.StepFits a

theorem stepsFit_nil (axes : List Axis) : StepsFit axes [] := by
  intro d a entry _ found
  cases found

theorem stepsFit_newAxis {axes : List Axis} {entries : List Slice} :
    StepsFit axes (newAxis :: entries) ↔ StepsFit axes entries := Iff.rfl

theorem stepsFit_cons {a : Axis} {axes : List Axis} {entry : Slice} {entries : List Slice}
    (takes : entry.takesAxis = true) :
    StepsFit (a :: axes) (entry :: entries) ↔
      entry.StepFits a ∧ ((∀ fault, ¬ Faulty a.extent entry fault) → StepsFit axes entries) := by
  have first : entryFor? (entry :: entries) 0 = some entry := by simp [entryFor?, takes]
  have later (d : Nat) : entryFor? (entry :: entries) (d + 1) = entryFor? entries d := by
    simp [entryFor?, takes]
  have before (d : Nat) :
      (∀ d' < d + 1, ∀ fault,
          ¬ FaultAt ((a :: axes).map Axis.extent) (entry :: entries) d' fault) ↔
        (∀ fault, ¬ Faulty a.extent entry fault) ∧
          ∀ d' < d, ∀ fault, ¬ FaultAt (axes.map Axis.extent) entries d' fault := by
    rw [Nat.forall_lt_succ_left, List.map_cons]
    simp only [faultAt_zero takes, faultAt_succ takes]
  constructor
  · intro fit
    refine ⟨fit 0 a entry rfl first (by simp), fun faultless d b other at_ found none => ?_⟩
    exact fit (d + 1) b other at_ ((later d).trans found) ((before d).2 ⟨faultless, none⟩)
  · rintro ⟨head, rest⟩ (_ | d) b other at_ found none
    · obtain rfl := Option.some.inj at_
      obtain rfl := Option.some.inj (first.symm.trans found)
      exact head
    · obtain ⟨faultless, none⟩ := (before d).1 none
      exact rest faultless d b other at_ ((later d).symm.trans found) none

-- One entry after the other: the distance stays among the elements that the dimensions so far span.
theorem fits_axesSteps {axes : List Axis} {dim span : Nat} (dense : DenseFrom span (axes.drop dim))
    {entries : List Slice} (enough : dim + entries.countP takesAxis ≤ axes.length)
    (words : ∀ entry ∈ entries, entry.Worded) (kept : List Axis) {distance : Int}
    (spanned : Spanned span distance) :
    (axesSteps axes dim kept distance entries).Fits ↔ StepsFit (axes.drop dim) entries := by
  induction entries generalizing dim span kept distance with
  | nil => exact iff_of_true (fits_pure _) (stepsFit_nil _)
  | cons entry entries ih =>
    obtain ⟨word, others⟩ := List.forall_mem_cons.1 words
    by_cases axis : entry = newAxis
    · subst axis
      rw [axesSteps, stepsFit_newAxis]
      exact ih dense (by simpa [takesAxis] using enough) others _ spanned
    · have takes := takesAxis_of_ne axis
      rw [List.countP_cons_of_pos takes] at enough
      have there : dim < axes.length := by omega
      rw [List.drop_eq_getElem_cons there] at dense ⊢
      obtain ⟨stride, small, room, dense⟩ := dense
      rw [stepsFit_cons takes, axesSteps_cons axis, fits_bind (unbounded_lookUp there),
        fits_bind (unbounded_axisSteps _ _ _ _), fits_axisSteps stride room spanned small word]
      simp only [Calculation.fits_ofOption, true_and]
      refine and_congr_right fun _ => ?_
      rw [← exists_onAxis_eq_ok_iff dim]
      cases sliced : entry.onAxis dim axes[dim] with
      | error e => exact iff_of_true (fits_pure _) (by simp)
      | ok first =>
        obtain ⟨head, near⟩ := first
        have rest := ih dense (by omega) others (kept ++ head.toList)
          (spanned.onAxis stride room sliced)
        simpa [Except.map] using rest

theorem denseFrom_weights {span : Nat} {es : List Nat}
    (addressable : Radix.Addressable span es) :
    DenseFrom span
      (List.zipWith Axis.mk es (((Radix.weights es).map (span * ·)).map Int.ofNat)) := by
  induction es generalizing span with
  | nil => trivial
  | cons e es ih =>
    refine ⟨by simp, addressable.head, addressable.span_head, ?_⟩
    simpa [Function.comp_def, Nat.mul_assoc] using ih addressable.tail

end Slice

variable {n : Nat}

namespace Layout

theorem denseFrom_axes {s : Shape n} (addressable : s.Addressable) :
    Slice.DenseFrom 1 (contiguous s).axes := by
  have dense := Slice.denseFrom_weights addressable.toList
  simp only [Nat.one_mul, List.map_id'] at dense
  exact dense

theorem fits_sliceSteps {s : Shape n} (addressable : s.Addressable) {entries : List Slice}
    (words : ∀ entry ∈ entries, entry.Worded) (m : Nat) :
    ((contiguous s).sliceSteps entries m).Fits ↔
      (entries.countP Slice.takesAxis ≤ n → Slice.StepsFit (contiguous s).axes entries) := by
  unfold sliceSteps
  dsimp only
  split
  · rename_i many
    exact iff_of_true (fits_pure _) fun enough => absurd many (Nat.not_lt.2 enough)
  · rename_i enough
    have enough := Nat.not_lt.1 enough
    have room : 0 + entries.countP Slice.takesAxis ≤ (contiguous s).axes.length := by
      rwa [length_axes, Nat.zero_add]
    have spanned : Slice.Spanned 1 0 := ⟨Int.le_refl 0, by decide, by simp⟩
    have first : (Slice.axesSteps (contiguous s).axes 0 [] 0 entries).Fits ↔ _ :=
      Slice.fits_axesSteps (denseFrom_axes addressable) room words [] spanned
    rw [fits_bind (Slice.unbounded_axesSteps room [] 0), first, List.drop_zero]
    simp only [enough, forall_const, and_iff_left_iff_imp]
    intro _
    cases Slice.onAxes 0 entries (contiguous s).axes with
    | error fault => exact fits_pure _
    | ok rest =>
      change Fits (if h : _ then _ else _)
      split <;> exact fits_pure _

theorem castless_sliceSteps (l : Layout n) (entries : List Slice) (m : Nat) :
    (l.sliceSteps entries m).Castless := by
  unfold sliceSteps
  dsimp only
  split
  · exact castless_pure _
  · refine castless_bind (Slice.castless_axesSteps _ _ _ _ _) fun outcome => ?_
    split
    · split <;> exact castless_pure _
    · exact castless_pure _

/-- The numbers on the way to a slice of a dense array are words exactly if no step is too large.
With checked words and with words that wrap around slicing is then what it is without a bound; with
a step that is too large checked words have no result. -/
theorem sliceSteps_on_words (s : Shape n) (small : IsWord s.size)
    (nothing : s.size = 0 → s.Addressable) (entries : List Slice)
    (words : ∀ entry ∈ entries, entry.Worded) (m : Nat) :
    ((∀ v ∈ ((contiguous s).sliceSteps entries m).numbers, IsWord v) ↔
        (entries.countP Slice.takesAxis ≤ n → Slice.StepsFit (contiguous s).axes entries)) ∧
      ((entries.countP Slice.takesAxis ≤ n → Slice.StepsFit (contiguous s).axes entries) →
        ((contiguous s).sliceSteps entries m).checked = some ((contiguous s).slice entries m) ∧
          ((contiguous s).sliceSteps entries m).wrapping =
            some ((contiguous s).slice entries m)) ∧
      (¬ (entries.countP Slice.takesAxis ≤ n → Slice.StepsFit (contiguous s).axes entries) →
        ((contiguous s).sliceSteps entries m).checked = none) := by
  have addressable : s.Addressable := by
    by_cases empty : s.size = 0
    · exact nothing empty
    · exact Shape.addressable_of_filled empty small
  have fits := fits_sliceSteps addressable words m
  refine ⟨fits, fun modest => ?_, fun large => ?_⟩
  · rw [Calculation.checked_of_fits (fits.2 modest), Calculation.wrapping_of_fits (fits.2 modest),
      unbounded_sliceSteps]
    exact ⟨rfl, rfl⟩
  · exact Calculation.checked_of_not_fits (castless_sliceSteps _ _ _) fun fitting =>
      large (fits.1 fitting)

/-- The last row of four, and of its three columns every other one from the last. -/
theorem sliceSteps_on_words_lastRow :
    IsWord (Shape.mk #v[4, 3]).size ∧
      (∀ entry ∈ [Slice.index (-1), .range none none (-2)], entry.Worded) ∧
      (∀ v ∈ ((contiguous ⟨#v[4, 3]⟩).sliceSteps [.index (-1), .range none none (-2)] 1).numbers,
        IsWord v) ∧
      ((contiguous ⟨#v[4, 3]⟩).sliceSteps [.index (-1), .range none none (-2)] 1).checked =
        some (.ok (⟨⟨#v[2]⟩, ⟨#v[-8]⟩⟩, 11)) := by
  have small : IsWord (Shape.mk #v[4, 3]).size := by decide
  have words : ∀ entry ∈ [Slice.index (-1), .range none none (-2)], entry.Worded := by
    simp [Slice.Worded, IsWord]
  have numbers : ∀ v ∈ ((contiguous ⟨#v[4, 3]⟩).sliceSteps
      [.index (-1), .range none none (-2)] 1).numbers, IsWord v := by
    decide
  obtain ⟨fits, same, -⟩ :=
    sliceSteps_on_words ⟨#v[4, 3]⟩ small (fun empty => absurd empty (by decide)) _ words 1
  exact ⟨small, words, numbers, (same (fits.1 numbers)).1.trans rfl⟩

/-- Three elements, of which a step of the largest word leaves the first. On the way to the number
of steps it is added to the distance of three, and wraps around to a length of all words. -/
theorem sliceSteps_of_largestStep :
    IsWord (Shape.mk #v[3]).size ∧
      (∀ entry ∈ [Slice.range none none 9223372036854775807], entry.Worded) ∧
      (∃ v ∈ ((contiguous ⟨#v[3]⟩).sliceSteps [.range none none 9223372036854775807] 1).numbers,
        ¬ IsWord v) ∧
      (contiguous ⟨#v[3]⟩).slice [.range none none 9223372036854775807] 1 =
        .ok (⟨⟨#v[1]⟩, ⟨#v[9223372036854775807]⟩⟩, 0) ∧
      ((contiguous ⟨#v[3]⟩).sliceSteps [.range none none 9223372036854775807] 1).checked = none ∧
      ((contiguous ⟨#v[3]⟩).sliceSteps [.range none none 9223372036854775807] 1).wrapping =
        some (.ok (⟨⟨#v[18446744073709551615]⟩, ⟨#v[9223372036854775807]⟩⟩, 0)) := by
  refine ⟨by decide, by simp [Slice.Worded, IsWord], by decide, rfl, rfl, rfl⟩

end Layout

end Strided
