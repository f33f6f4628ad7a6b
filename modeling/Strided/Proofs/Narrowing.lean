import Strided.Proofs.Overflow
import Strided.Proofs.WordLevel

/-! Slices of arrays whose sizes are words.

A slice has no more positions along a dimension than the array, and an array that has a dimension
fixed has a position there. So the extents of a slice never multiply to more than those of the
array: a slice of an addressable shape is addressable. Nothing is cast while slicing, and a build
that looks for results that are no words gets to the end only with the slice there is without a
bound.
-/

set_option autoImplicit false

namespace Strided

variable {t : DType} {n k : Nat}

namespace Radix.Addressable

variable {span less e : Nat} {es : List Nat}

theorem mono (addressable : Addressable span es) (le : less ≤ span) : Addressable less es where
  extents := addressable.extents
  spans k := by
    have word := addressable.spans k
    have bound : less * size (es.take k) ≤ span * size (es.take k) := Nat.mul_le_mul_right _ le
    unfold IsWord at *
    omega

theorem cons (addressable : Addressable (span * e) es) (word : IsWord span) (small : IsWord e) :
    Addressable span (e :: es) where
  extents := List.forall_mem_cons.2 ⟨small, addressable.extents⟩
  spans k := by
    cases k with
    | zero => simpa [size] using word
    | succ k => simpa [size, Nat.mul_assoc] using addressable.spans k

theorem span_word (addressable : Addressable span es) : IsWord span := by
  simpa [size] using addressable.spans 0

end Radix.Addressable

namespace Slice

theorem run_count_le {extent : Nat} {start stop : Option Int} {step : Int} (moves : step ≠ 0) :
    (run extent start stop step).count ≤ extent := by
  by_contra many
  obtain ⟨last, length⟩ : ∃ last, (run extent start stop step).count = last + 1 :=
    ⟨_, (Nat.succ_pred_eq_of_pos (by omega)).symm⟩
  have first := run_within moves (by omega : 0 < (run extent start stop step).count)
  have within := run_within moves (by omega : last < (run extent start stop step).count)
  -- From the first position to the last one there are at least as many places as steps.
  rcases Int.lt_or_gt_of_ne moves with back | forth
  · have far : (last : Int) * step ≤ last * -1 :=
      Int.mul_le_mul_of_nonneg_left (by omega) (Int.natCast_nonneg last)
    omega
  · have far : (last : Int) * 1 ≤ last * step :=
      Int.mul_le_mul_of_nonneg_left (by omega) (Int.natCast_nonneg last)
    omega

theorem extent_onAxis {dim : Nat} {a : Axis} {entry : Slice} {head : Option Axis} {near : Int}
    (ok : entry.onAxis dim a = .ok (head, near)) :
    (∀ kept, head = some kept → kept.extent ≤ a.extent) ∧ (head = none → 0 < a.extent) := by
  cases entry with
  | all | newAxis =>
    cases ok
    refine ⟨fun kept same => ?_, fun none => ?_⟩
    · cases same
      exact Nat.le_refl _
    · cases none
  | index p =>
    rw [onAxis] at ok
    split at ok
    · rename_i inside
      cases ok
      refine ⟨fun kept same => ?_, fun _ => by omega⟩
      cases same
    · cases ok
  | range start stop step =>
    rw [onAxis] at ok
    split at ok
    · cases ok
    · rename_i moves
      cases ok
      refine ⟨fun kept same => ?_, fun none => ?_⟩
      · cases same
        exact run_count_le moves
      · cases none

theorem addressable_onAxes {dim span : Nat} {entries : List Slice} {axes kept : List Axis}
    {far : Int} (ok : onAxes dim entries axes = .ok (kept, far))
    (addressable : Radix.Addressable span (axes.map Axis.extent)) :
    Radix.Addressable span (kept.map Axis.extent) := by
  induction entries generalizing dim span axes kept far with
  | nil =>
    obtain ⟨rfl, -⟩ := Prod.mk.inj (Except.ok.inj ok)
    exact addressable
  | cons entry entries ih =>
    by_cases axis : entry = newAxis
    · subst axis
      obtain ⟨r, rest, done⟩ := Outcome.bind_eq_ok_iff.1 ok
      obtain ⟨rfl, -⟩ := Prod.mk.inj (Except.ok.inj done)
      have inner := ih rest addressable
      exact (inner.mono (Nat.le_of_eq (Nat.mul_one span))).cons inner.span_word (by decide)
    · cases axes with
      | nil =>
        cases entry with
        | newAxis => exact absurd rfl axis
        | all | range | index => cases ok
      | cons a axes =>
        rw [onAxes_cons axis] at ok
        obtain ⟨r, first, ok⟩ := Outcome.bind_eq_ok_iff.1 ok
        obtain ⟨r', rest, done⟩ := Outcome.bind_eq_ok_iff.1 ok
        obtain ⟨rfl, -⟩ := Prod.mk.inj (Except.ok.inj done)
        obtain ⟨narrower, some⟩ := extent_onAxis first
        have inner := ih rest addressable.tail
        cases head : r.1 with
        | none =>
          have bound : span ≤ span * a.extent := Nat.le_mul_of_pos_right span (some head)
          simpa [head] using inner.mono bound
        | some b =>
          have le : b.extent ≤ a.extent := narrower b head
          have small : IsWord b.extent := by
            have := addressable.head
            unfold IsWord at *
            omega
          simpa [head] using
            (inner.mono (Nat.mul_le_mul_left span le)).cons addressable.span_word small

end Slice

theorem Shape.addressable_of_toList {s : Shape n} (addressable : Radix.Addressable 1 s.toList) :
    s.Addressable where
  extents := addressable.extents
  spans k := by simpa using addressable.spans k

theorem Layout.addressable_slice {l : Layout n} {entries : List Slice} {r : Layout k × Int}
    (sliced : l.slice entries k = .ok r) (addressable : l.shape.Addressable) :
    r.1.shape.Addressable := by
  obtain ⟨kept, found, shape, -⟩ := slice_eq_ok sliced
  have axes := addressable.toList
  rw [← extents_axes] at axes
  have narrow := Slice.addressable_onAxes found axes
  rw [← shape] at narrow
  exact Shape.addressable_of_toList narrow

theorem Span.addressable_slice {s : Span t n} {u : Span t k} {entries : List Slice}
    (sliced : s.slice entries k = .ok u) (addressable : s.shape.Addressable) :
    u.shape.Addressable := by
  obtain ⟨r, found, done⟩ := Outcome.bind_eq_ok_iff.1 sliced
  obtain rfl := Except.ok.inj done
  exact Layout.addressable_slice found addressable

theorem AnySpan.addressable_sliceAll {s u : AnySpan t} {slices : List SliceStep}
    (sliced : s.sliceAll slices = .ok u) (addressable : s.span.shape.Addressable) :
    u.span.shape.Addressable := by
  induction slices generalizing s with
  | nil =>
    obtain rfl := Except.ok.inj sliced
    exact addressable
  | cons step rest ih =>
    obtain ⟨next, first, sliced⟩ := Outcome.bind_eq_ok_iff.1 sliced
    exact ih sliced (Span.addressable_slice first addressable)

theorem Span.castless_sliceSteps (s : Span t n) (entries : List Slice) (k : Nat) :
    (s.sliceSteps entries k).run.Castless :=
  Calculation.castless_run_bind (s.layout.castless_sliceSteps entries k) fun _ =>
    Calculation.castless_pure _

theorem AnySpan.castless_sliceAllSteps (s : AnySpan t) (slices : List SliceStep) :
    (s.sliceAllSteps slices).run.Castless := by
  induction slices generalizing s with
  | nil => exact Calculation.castless_pure _
  | cons step rest ih =>
    exact Calculation.castless_run_bind (s.span.castless_sliceSteps _ _) fun next => ih ⟨next⟩

theorem Layout.slice_of_settles {l : Layout n} {entries : List Slice}
    {r : Except Error (Layout k × Int)} (settles : (l.sliceSteps entries k).Settles r) :
    l.slice entries k = r :=
  Option.some.inj ((l.unbounded_sliceSteps entries k).symm.trans
    (Calculation.unbounded_of_checked (l.castless_sliceSteps entries k) settles.checked))

theorem AnySpan.sliceAll_of_settles {s : AnySpan t} {slices : List SliceStep}
    {r : Except Error (AnySpan t)} (settles : (s.sliceAllSteps slices).run.Settles r) :
    s.sliceAll slices = r :=
  Option.some.inj ((s.unbounded_sliceAllSteps slices).symm.trans
    (Calculation.unbounded_of_checked (s.castless_sliceAllSteps slices) settles.checked))

end Strided
