import Strided.Proofs.Selection
import Strided.Proofs.Settling
import Strided.Slice.Calculation

/-! Slicing by calculation is slicing.

Where numbers have no bound, slicing one operation at a time never meets an operation without a
result: a dimension that is looked up is there, bounds are the right way round, and no step has size
0.
-/

set_option autoImplicit false

namespace Strided

open Calculation (ofOption unbounded_bind unbounded_pure unbounded_require unbounded_ofOption)

namespace Slice

@[simp] theorem unbounded_fromStartSteps (extent : Nat) (position : Int) :
    (fromStartSteps extent position).unbounded = some (fromStart extent position) := by
  unfold fromStartSteps fromStart
  split <;> rfl

theorem unbounded_clampSteps {low high : Int} (ordered : low ≤ high) (x : Int) :
    (clampSteps low high x).unbounded = some (clamp low high x) := by
  rw [clampSteps, unbounded_bind, unbounded_require ordered]
  rfl

theorem unbounded_boundSteps {extent : Nat} {low high natural : Int} (floor : low ≤ 0)
    (ceiling : extent - 1 ≤ high) (least : low ≤ natural) (most : natural ≤ high)
    (given : Option Int) :
    (boundSteps extent low high natural given).unbounded =
      some (settle extent low high natural given) := by
  have ordered : low ≤ high := Int.le_trans least most
  rw [← clamp_eq_settle extent low high natural given floor ceiling least most]
  cases given with
  | none => exact unbounded_clampSteps ordered natural
  | some position =>
    rw [boundSteps, unbounded_bind, unbounded_fromStartSteps]
    exact unbounded_clampSteps ordered _

section
variable {extent : Nat} {natural : Int}

theorem unbounded_boundSteps_up (least : 0 ≤ natural) (most : natural ≤ extent)
    (given : Option Int) :
    (boundSteps extent 0 extent natural given).unbounded =
      some (settle extent 0 extent natural given) :=
  unbounded_boundSteps (Int.le_refl 0) (by omega) least most given

theorem unbounded_boundSteps_down (least : -1 ≤ natural) (most : natural ≤ extent - 1)
    (given : Option Int) :
    (boundSteps extent (-1) (extent - 1) natural given).unbounded =
      some (settle extent (-1) (extent - 1) natural given) :=
  unbounded_boundSteps (by omega) (Int.le_refl _) least most given

end

theorem unbounded_divideUpSteps {distance size : Int} (positive : 0 < size) :
    (divideUpSteps (max distance 0) size).unbounded = some (stepsToCover distance size : Int) := by
  have ahead : 0 ≤ max distance 0 + size - 1 := by omega
  have count : ((max distance 0 + size - 1).tdiv size : Int) = stepsToCover distance size := by
    rw [Int.tdiv_eq_ediv_of_nonneg ahead, stepsToCover,
      Int.toNat_of_nonneg (Int.ediv_nonneg ahead (Int.le_of_lt positive))]
  simp [divideUpSteps, unbounded_require (Int.ne_of_gt positive), count]

theorem unbounded_runSteps (extent : Nat) (start stop : Option Int) {step : Int}
    (moves : step ≠ 0) :
    (runSteps extent start stop step).unbounded =
      some ((run extent start stop step).first, ((run extent start stop step).count : Int)) := by
  unfold runSteps
  split
  · rename_i forward
    have first := unbounded_boundSteps_up (Int.le_refl 0) (Int.natCast_nonneg extent) start
    have last := unbounded_boundSteps_up (Int.natCast_nonneg extent) (Int.le_refl extent) stop
    rw [run_of_pos forward]
    simp [first, last, unbounded_divideUpSteps forward]
  · have backward : step < 0 := by omega
    have size : 0 < -step := by omega
    have least : (-1 : Int) ≤ extent - 1 := by omega
    have first := unbounded_boundSteps_down least (Int.le_refl _) start
    have last := unbounded_boundSteps_down (Int.le_refl _) least stop
    rw [run_of_neg backward]
    simp [first, last, unbounded_divideUpSteps size]

@[simp] theorem unbounded_moveSteps (distance position stride : Int) :
    (moveSteps distance position stride).unbounded = some (distance + position * stride) := by
  simp [moveSteps]

theorem unbounded_enterSteps (distance first : Int) (count : Nat) (stride : Int) :
    (enterSteps distance first count stride).unbounded =
      some (distance + if count = 0 then 0 else first * stride) := by
  unfold enterSteps
  split
  · rename_i some
    rw [unbounded_moveSteps, if_neg (by omega)]
  · rename_i none
    rw [unbounded_pure, if_pos (by omega), Int.add_zero]

theorem unsignedWord_natCast (count : Nat) : unsignedWord count = count := by
  rw [unsignedWord, if_neg (by omega), Int.toNat_natCast]

theorem unbounded_axisSteps (dim : Nat) (a : Axis) (distance : Int) (entry : Slice) :
    (axisSteps dim a distance entry).unbounded =
      some ((entry.onAxis dim a).map fun (head, near) => (head, distance + near)) := by
  cases entry with
  | all | newAxis => simp [axisSteps, onAxis, Except.map]
  | index position =>
    simp only [axisSteps, onAxis, unbounded_bind, unbounded_fromStartSteps, Option.bind_some]
    split
    · simp [Except.map]
    · rfl
  | range start stop step =>
    rw [axisSteps, onAxis]
    split
    · rfl
    · rename_i moves
      simp [unbounded_runSteps _ _ _ moves, unbounded_enterSteps, unsignedWord_natCast, Except.map]

theorem takesAxis_of_ne {entry : Slice} (axis : entry ≠ newAxis) : entry.takesAxis = true := by
  cases entry with
  | newAxis => exact absurd rfl axis
  | all | index | range => rfl

theorem axesSteps_cons {entry : Slice} (axis : entry ≠ newAxis) (axes : List Axis) (dim : Nat)
    (kept : List Axis) (distance : Int) (entries : List Slice) :
    axesSteps axes dim kept distance (entry :: entries) = do
      let a ← ofOption axes[dim]?
      match ← axisSteps dim a distance entry with
      | .ok (head, distance) => axesSteps axes (dim + 1) (kept ++ head.toList) distance entries
      | .error fault => return .error fault := by
  cases entry with
  | newAxis => exact absurd rfl axis
  | all | index | range => rfl

theorem unbounded_lookUp {axes : List Axis} {dim : Nat} (there : dim < axes.length) :
    (ofOption axes[dim]?).unbounded = some axes[dim] := by
  rw [unbounded_ofOption, List.getElem?_eq_getElem there]

-- The dimensions kept so far and the distance so far stand before what is still to come.
theorem unbounded_axesSteps {axes : List Axis} {dim : Nat} {entries : List Slice}
    (enough : dim + entries.countP takesAxis ≤ axes.length) (kept : List Axis) (distance : Int) :
    (axesSteps axes dim kept distance entries).unbounded =
      some ((onAxes dim entries (axes.drop dim)).map fun (rest, far) =>
        (kept ++ rest, distance + far)) := by
  induction entries generalizing dim kept distance with
  | nil => simp [axesSteps, onAxes, Except.map]
  | cons entry entries ih =>
    by_cases axis : entry = newAxis
    · subst axis
      rw [axesSteps, ih (by simpa [takesAxis] using enough), onAxes]
      cases onAxes dim entries (axes.drop dim) with
      | ok rest => simp [Except.map, bind, Except.bind, pure, Except.pure]
      | error fault => rfl
    · have takes := takesAxis_of_ne axis
      rw [List.countP_cons_of_pos takes] at enough
      have there : dim < axes.length := by omega
      rw [axesSteps_cons axis, List.drop_eq_getElem_cons there, onAxes_cons axis]
      simp only [unbounded_bind, unbounded_lookUp there, Option.bind_some, unbounded_axisSteps]
      cases entry.onAxis dim axes[dim] with
      | error fault => rfl
      | ok first =>
        simp only [Except.map]
        rw [ih (by omega)]
        cases onAxes (dim + 1) entries (axes.drop (dim + 1)) with
        | error fault => rfl
        | ok rest => simp [Except.map, bind, Except.bind, pure, Except.pure, Int.add_assoc]

end Slice

namespace Layout

variable {n : Nat}

theorem length_axes (l : Layout n) : l.axes.length = n := by
  simp [axes, Strides.toList]

-- Where numbers have no bound, no operation of slicing is without a result.
theorem unbounded_sliceSteps (l : Layout n) (entries : List Slice) (m : Nat) :
    (l.sliceSteps entries m).unbounded = some (l.slice entries m) := by
  unfold sliceSteps slice
  dsimp only
  split
  · rfl
  · rename_i enough
    have room : 0 + entries.countP Slice.takesAxis ≤ l.axes.length := by
      rw [length_axes]
      omega
    rw [unbounded_bind, Slice.unbounded_axesSteps room, List.drop_zero]
    cases Slice.onAxes 0 entries l.axes with
    | error fault => rfl
    | ok rest =>
      obtain ⟨kept, distance⟩ := rest
      simp only [Except.map, Option.bind_some, List.nil_append, Int.zero_add]
      by_cases rank : kept.length = m
      · rw [dif_pos rank, unbounded_pure]
        simp [bind, Except.bind, pure, Except.pure, rank]
      · rw [dif_neg rank, unbounded_pure]
        simp [bind, Except.bind, throw, throwThe, MonadExceptOf.throw, rank]

end Layout

end Strided
