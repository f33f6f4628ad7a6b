import Strided.Proofs.Addressing
import Strided.Proofs.Outcome

/-! What a slicing request selects.

`walk` goes through the positions of a range one step at a time, as one would by hand, and the
closed form with which layouts are sliced is compared with it. An entry then has a map from the
coordinate that it keeps to the coordinate of the array, the entries of a request have one from
indices to indices, and a chain of requests has their composition.
-/

set_option autoImplicit false

namespace Strided

variable {t : DType} {n : Nat}

namespace Slice

/-- The positions from `p` on, `step` apart, that come before `stop` in the direction of `step`. -/
def walk (stop step p : Int) : List Int :=
  if 0 < step ∧ p < stop ∨ step < 0 ∧ stop < p then p :: walk stop step (p + step) else []
termination_by (if 0 < step then stop - p else p - stop).toNat
decreasing_by split <;> omega

/-- Where a bound of a range lies: a negative position counts from the end, one that is out of
range is moved to the nearer limit, and one that is not given is the natural end. -/
def settle (extent : Nat) (low high natural : Int) : Option Int → Int
  | none => natural
  | some p => if p < 0 then max low (p + extent) else min p high

/-- The positions that a range selects from a dimension, in order. -/
def selection (extent : Nat) (start stop : Option Int) (step : Int) : List Int :=
  if 0 < step then
    walk (settle extent 0 extent extent stop) step (settle extent 0 extent 0 start)
  else
    walk (settle extent (-1) (extent - 1) (-1) stop) step
      (settle extent (-1) (extent - 1) (extent - 1) start)

theorem lt_stepsToCover_iff {k : Nat} {distance size : Int} (positive : 0 < size) :
    k < stepsToCover distance size ↔ k * size < distance := by
  rw [stepsToCover, Int.lt_toNat, Int.lt_iff_add_one_le, Int.le_ediv_iff_mul_le positive,
    Int.add_mul]
  have := Int.mul_nonneg (Int.natCast_nonneg k) (Int.le_of_lt positive)
  omega

theorem stepsToCover_of_nonpos {distance size : Int} (positive : 0 < size)
    (covered : distance ≤ 0) : stepsToCover distance size = 0 := by
  by_contra some
  have := (lt_stepsToCover_iff positive).1 (Nat.pos_of_ne_zero some)
  omega

theorem stepsToCover_of_pos {distance size : Int} (positive : 0 < size) (ahead : 0 < distance) :
    stepsToCover distance size = stepsToCover (distance - size) size + 1 := by
  refine eq_of_forall_lt_iff fun k => ?_
  cases k with
  | zero => simpa [lt_stepsToCover_iff positive] using ahead
  | succ k =>
    rw [lt_stepsToCover_iff positive, Nat.succ_lt_succ_iff, lt_stepsToCover_iff positive,
      Int.natCast_succ, Int.add_mul]
    omega

/-- The distance that is left and the length of a step, in the direction of the step. -/
inductive Heading (stop step p : Int) : Int → Int → Prop where
  | up (forward : 0 < step) : Heading stop step p (stop - p) step
  | down (backward : step < 0) : Heading stop step p (p - stop) (-step)

section
variable {stop step p distance size : Int}

theorem Heading.positive (heading : Heading stop step p distance size) : 0 < size := by
  cases heading <;> omega

theorem Heading.before_iff (heading : Heading stop step p distance size) :
    (0 < step ∧ p < stop ∨ step < 0 ∧ stop < p) ↔ 0 < distance := by
  cases heading <;> omega

theorem Heading.next (heading : Heading stop step p distance size) :
    Heading stop step (p + step) (distance - size) size := by
  cases heading with
  | up forward =>
    have closer : stop - p - step = stop - (p + step) := by omega
    exact closer ▸ .up forward
  | down backward =>
    have closer : p - stop - -step = p + step - stop := by omega
    exact closer ▸ .down backward

theorem walk_eq (heading : Heading stop step p distance size) :
    walk stop step p =
      (List.range (stepsToCover distance size)).map fun k : Nat => p + k * step := by
  -- Each step shortens the distance that is left.
  induction left : distance.toNat using Nat.strongRecOn generalizing p distance with
  | ind left ih =>
    have positive := heading.positive
    rw [walk]
    by_cases ahead : 0 < distance
    · rw [if_pos (heading.before_iff.2 ahead), ih _ (by omega) heading.next rfl,
        stepsToCover_of_pos positive ahead, List.range_succ_eq_map, List.map_cons, List.map_map]
      congr 1
      · simp
      · apply List.map_congr_left
        intro k _
        simp only [Function.comp_apply, Nat.succ_eq_add_one, Int.natCast_add, Int.add_mul]
        omega
    · rw [if_neg (fun before => ahead (heading.before_iff.1 before)),
        stepsToCover_of_nonpos positive (by omega)]
      rfl

end

theorem clamp_eq_settle (extent : Nat) (low high natural : Int) (given : Option Int)
    (floor : low ≤ 0) (ceiling : extent - 1 ≤ high) (least : low ≤ natural)
    (most : natural ≤ high) :
    clamp low high ((given.map (fromStart extent)).getD natural) =
      settle extent low high natural given := by
  cases given with
  | none =>
    simp only [Option.map_none, Option.getD_none, clamp, settle]
    omega
  | some p =>
    simp only [Option.map_some, Option.getD_some, clamp, settle, fromStart]
    split <;> omega

theorem settle_bounds (extent : Nat) (low high natural : Int) (given : Option Int)
    (floor : low ≤ 0) (ceiling : extent - 1 ≤ high) (least : low ≤ natural)
    (most : natural ≤ high) :
    low ≤ settle extent low high natural given ∧ settle extent low high natural given ≤ high := by
  cases given with
  | none => exact ⟨least, most⟩
  | some p =>
    simp only [settle]
    split <;> omega

section
variable {extent : Nat} {start stop : Option Int} {step : Int}

theorem run_of_pos (forward : 0 < step) :
    run extent start stop step =
      ⟨settle extent 0 extent 0 start,
        stepsToCover (settle extent 0 extent extent stop - settle extent 0 extent 0 start)
          step⟩ := by
  have first := clamp_eq_settle extent 0 extent 0 start
  have last := clamp_eq_settle extent 0 extent extent stop
  rw [run, if_pos forward, first, last] <;> omega

theorem run_of_neg (backward : step < 0) :
    run extent start stop step =
      ⟨settle extent (-1) (extent - 1) (extent - 1) start,
        stepsToCover (settle extent (-1) (extent - 1) (extent - 1) start -
          settle extent (-1) (extent - 1) (-1) stop) (-step)⟩ := by
  have first := clamp_eq_settle extent (-1) (extent - 1) (extent - 1) start
  have last := clamp_eq_settle extent (-1) (extent - 1) (-1) stop
  rw [run, if_neg (by omega), first, last] <;> omega

-- The closed form of a range is the walk through it.
theorem selection_eq_run (moves : step ≠ 0) :
    selection extent start stop step =
      (List.range (run extent start stop step).count).map fun k : Nat =>
        (run extent start stop step).first + k * step := by
  unfold selection
  split
  · rename_i forward
    rw [run_of_pos forward]
    exact walk_eq (.up forward)
  · have backward : step < 0 := by omega
    rw [run_of_neg backward]
    exact walk_eq (.down backward)

/-- A range selects positions of the dimension. -/
theorem run_within (moves : step ≠ 0) {k : Nat}
    (selected : k < (run extent start stop step).count) :
    0 ≤ (run extent start stop step).first + k * step ∧
      (run extent start stop step).first + k * step < extent := by
  by_cases forward : 0 < step
  · rw [run_of_pos forward] at selected ⊢
    have before := (lt_stepsToCover_iff forward).1 selected
    have ahead := Int.mul_nonneg (Int.natCast_nonneg k) (Int.le_of_lt forward)
    have first := settle_bounds extent 0 extent 0 start
    have last := settle_bounds extent 0 extent extent stop
    dsimp only
    omega
  · have backward : step < 0 := by omega
    rw [run_of_neg backward] at selected ⊢
    have size : 0 < -step := by omega
    have before := (lt_stepsToCover_iff size).1 selected
    have behind := Int.mul_nonneg (Int.natCast_nonneg k) (Int.le_of_lt size)
    rw [Int.mul_neg] at before behind
    have first := settle_bounds extent (-1) (extent - 1) (extent - 1) start
    have last := settle_bounds extent (-1) (extent - 1) (-1) stop
    dsimp only
    omega

end

/-- The extent that an entry leaves of a dimension, if it keeps the dimension. -/
def keptExtent (extent : Nat) : Slice → Option Nat
  | index _ => none
  | range start stop step => some (selection extent start stop step).length
  | all | newAxis => some extent

/-- The position along a dimension of the array to which an entry sends the coordinate `k` of the
slice. An entry that fixes the dimension does not look at it. -/
def position (extent : Nat) (k : Nat) : Slice → Nat
  | index p => (if p < 0 then p + extent else p).toNat
  | range start stop step => ((selection extent start stop step).getD k 0).toNat
  | all | newAxis => k

def extents : List Slice → List Nat → List Nat
  | [], es => es
  | newAxis :: entries, es => 1 :: extents entries es
  | entry :: entries, e :: es => (entry.keptExtent e).toList ++ extents entries es
  | _ :: _, [] => []

/-- The index of the array to which a slice sends an index of its own. -/
def source : List Slice → List Nat → List Nat → List Nat
  | [], _, js => js
  | newAxis :: entries, es, js => source entries es js.tail
  | entry :: entries, e :: es, js =>
    if (entry.keptExtent e).isSome then
      entry.position e (js.headD 0) :: source entries es js.tail
    else entry.position e 0 :: source entries es js
  | _ :: _, [], _ => []

theorem position_range {extent k : Nat} {start stop : Option Int} {step : Int} (moves : step ≠ 0)
    (selected : k < (run extent start stop step).count) :
    (range start stop step).position extent k < extent ∧
      ((range start stop step).position extent k : Int) =
        (run extent start stop step).first + k * step := by
  have found : (selection extent start stop step).getD k 0 =
      (run extent start stop step).first + k * step := by
    rw [selection_eq_run moves]
    simp [List.getD_eq_getElem?_getD, selected]
  have within := run_within moves selected
  have place : ((range start stop step).position extent k : Int) =
      (run extent start stop step).first + k * step := by
    rw [position, found, Int.toNat_of_nonneg within.1]
  exact ⟨by omega, place⟩

-- What one entry makes of a dimension: its extent, and where each coordinate of it lies.
theorem onAxis_eq_ok {dim : Nat} {a : Axis} {entry : Slice} {head : Option Axis} {near : Int}
    (ok : entry.onAxis dim a = .ok (head, near)) :
    head.map Axis.extent = entry.keptExtent a.extent ∧
      ∀ k, (∀ kept ∈ head, k < kept.extent) →
        entry.position a.extent k < a.extent ∧
          near + k * (head.map Axis.stride).getD 0 = entry.position a.extent k * a.stride := by
  cases entry with
  | all | newAxis =>
    obtain ⟨rfl, rfl⟩ := Prod.mk.inj (Except.ok.inj ok)
    exact ⟨rfl, fun k below => ⟨below a rfl, Int.zero_add _⟩⟩
  | index p =>
    have place (k : Nat) : (index p).position a.extent k = (fromStart a.extent p).toNat := rfl
    rw [onAxis] at ok
    generalize fromStart a.extent p = spot at ok place
    split at ok
    · rename_i inside
      obtain ⟨rfl, rfl⟩ := Prod.mk.inj (Except.ok.inj ok)
      refine ⟨rfl, fun k _ => ⟨?_, ?_⟩⟩
      · rw [place]
        omega
      · simp only [place, Option.map_none, Option.getD_none, Int.toNat_of_nonneg inside.1,
          Int.mul_zero, Int.add_zero]
    · cases ok
  | range start stop step =>
    rw [onAxis] at ok
    split at ok
    · cases ok
    · rename_i moves
      obtain ⟨rfl, rfl⟩ := Prod.mk.inj (Except.ok.inj ok)
      constructor
      · simp [keptExtent, selection_eq_run moves]
      · intro k below
        have selected : k < (run a.extent start stop step).count := below _ rfl
        have some : (run a.extent start stop step).count ≠ 0 := by omega
        obtain ⟨inside, place⟩ := position_range moves selected
        refine ⟨inside, ?_⟩
        simp only [if_neg some, Option.map_some, Option.getD_some]
        rw [place, Int.add_mul, Int.mul_assoc, Int.mul_comm step]

section
variable {entry : Slice} (axis : entry ≠ newAxis)
include axis

theorem onAxes_cons (dim : Nat) (entries : List Slice) (a : Axis) (axes : List Axis) :
    onAxes dim (entry :: entries) (a :: axes) = do
      let (head, near) ← entry.onAxis dim a
      let (kept, far) ← onAxes (dim + 1) entries axes
      return (head.toList ++ kept, near + far) := by
  cases entry with
  | newAxis => exact absurd rfl axis
  | all | range | index => rfl

theorem extents_cons (entries : List Slice) (e : Nat) (es : List Nat) :
    extents (entry :: entries) (e :: es) =
      (entry.keptExtent e).toList ++ extents entries es := by
  cases entry with
  | newAxis => exact absurd rfl axis
  | all | range | index => rfl

theorem source_cons (entries : List Slice) (e : Nat) (es js : List Nat) :
    source (entry :: entries) (e :: es) js =
      if (entry.keptExtent e).isSome then
        entry.position e (js.headD 0) :: source entries es js.tail
      else entry.position e 0 :: source entries es js := by
  cases entry with
  | newAxis => exact absurd rfl axis
  | all | range | index => rfl

end

/-- The kept axes and the distance to their first element pick the elements of the array to which
the entries send the indices of the slice. -/
structure Selects (entries : List Slice) (axes kept : List Axis) (distance : Int) : Prop where
  shape : kept.map Axis.extent = extents entries (axes.map Axis.extent)
  index : ∀ js, Radix.Within (kept.map Axis.extent) js →
    Radix.Within (axes.map Axis.extent) (source entries (axes.map Axis.extent) js) ∧
      distance + Layout.travel js (kept.map Axis.stride) =
        Layout.travel (source entries (axes.map Axis.extent) js) (axes.map Axis.stride)

section
variable {entries : List Slice} {axes kept : List Axis} {far : Int}

theorem Selects.newAxis (rest : Selects entries axes kept far) :
    Selects (newAxis :: entries) axes (⟨1, 0⟩ :: kept) far where
  shape := congrArg (1 :: ·) rest.shape
  index := by
    intro js within
    cases js with
    | nil => exact within.elim
    | cons j js =>
      obtain ⟨inside, offset⟩ := rest.index js within.2
      refine ⟨inside, ?_⟩
      rw [List.map_cons, Layout.travel, Int.mul_zero, Int.zero_add]
      exact offset

-- An entry that fixes its dimension moves the first element; one that keeps it also scales the
-- steps along it.
theorem Selects.cons {entry : Slice} (axis : entry ≠ .newAxis) {dim : Nat} {a : Axis}
    {head : Option Axis} {near : Int} (first : entry.onAxis dim a = .ok (head, near))
    (rest : Selects entries axes kept far) :
    Selects (entry :: entries) (a :: axes) (head.toList ++ kept) (near + far) := by
  obtain ⟨extent, lies⟩ := onAxis_eq_ok first
  constructor
  · rw [List.map_cons, extents_cons axis, ← extent, ← rest.shape]
    cases head <;> rfl
  · intro js within
    rw [List.map_cons, List.map_cons, source_cons axis, ← extent]
    cases head with
    | none =>
      obtain ⟨inside, offset⟩ := rest.index js within
      obtain ⟨below, start⟩ := lies 0 (by simp)
      refine ⟨⟨below, inside⟩, ?_⟩
      simp only [Option.map_none, Option.isSome_none, Bool.false_eq_true, if_false,
        Layout.travel, ← offset, ← start]
      simp [Int.add_assoc]
    | some kept =>
      cases js with
      | nil => exact within.elim
      | cons j js =>
        obtain ⟨inside, offset⟩ := rest.index js within.2
        obtain ⟨below, start⟩ := lies j (by simpa using within.1)
        refine ⟨⟨below, inside⟩, ?_⟩
        simp only [Option.map_some, Option.isSome_some, if_true, List.headD_cons, List.tail_cons,
          Layout.travel, ← offset, ← start]
        simp only [Option.toList_some, List.singleton_append, List.map_cons, Layout.travel,
          Option.getD_some]
        omega

end

theorem selects_onAxes {dim : Nat} {entries : List Slice} {axes kept : List Axis} {distance : Int}
    (ok : onAxes dim entries axes = .ok (kept, distance)) :
    Selects entries axes kept distance := by
  induction entries generalizing dim axes kept distance with
  | nil =>
    obtain ⟨rfl, rfl⟩ := Prod.mk.inj (Except.ok.inj ok)
    exact ⟨rfl, fun js within => ⟨within, Int.zero_add _⟩⟩
  | cons entry entries ih =>
    by_cases axis : entry = newAxis
    · subst axis
      obtain ⟨⟨rest, far⟩, found, ok⟩ := Outcome.bind_eq_ok_iff.1 ok
      obtain ⟨rfl, rfl⟩ := Prod.mk.inj (Except.ok.inj ok)
      exact (ih found).newAxis
    · cases axes with
      | nil => cases entry <;> simp_all [onAxes]
      | cons a axes =>
        rw [onAxes_cons axis] at ok
        obtain ⟨⟨head, near⟩, first, ok⟩ := Outcome.bind_eq_ok_iff.1 ok
        obtain ⟨⟨rest, far⟩, found, ok⟩ := Outcome.bind_eq_ok_iff.1 ok
        obtain ⟨rfl, rfl⟩ := Prod.mk.inj (Except.ok.inj ok)
        exact (ih found).cons axis first

end Slice

namespace Layout

theorem extents_axes (l : Layout n) : l.axes.map Axis.extent = l.shape.toList := by
  apply List.ext_getElem <;> simp [axes, Strides.toList]

theorem strides_axes (l : Layout n) : l.axes.map Axis.stride = l.strides.toList := by
  apply List.ext_getElem <;> simp [axes, Strides.toList]

theorem slice_eq_ok {m : Nat} {l : Layout n} {l' : Layout m} {entries : List Slice}
    {distance : Int} (ok : l.slice entries m = .ok (l', distance)) :
    ∃ kept, Slice.onAxes 0 entries l.axes = .ok (kept, distance) ∧
      l'.shape.toList = kept.map Axis.extent ∧ l'.strides.toList = kept.map Axis.stride := by
  unfold slice at ok
  dsimp only at ok
  split at ok
  · cases ok
  · obtain ⟨⟨kept, far⟩, found, ok⟩ := Outcome.bind_eq_ok_iff.1 ok
    split at ok
    · rename_i rank
      subst rank
      obtain ⟨rfl, rfl⟩ := Prod.mk.inj (Except.ok.inj ok)
      exact ⟨kept, found, rfl, rfl⟩
    · cases ok

-- One request, for a layout: its map of indices goes into the array, and to the same cell.
theorem slice_selects {m : Nat} {l : Layout n} {l' : Layout m} {entries : List Slice}
    {distance : Int} (ok : l.slice entries m = .ok (l', distance)) :
    l'.shape.toList = Slice.extents entries l.shape.toList ∧
      ∀ j, l'.shape.Contains j → ∃ i : Index n,
        i.toList = Slice.source entries l.shape.toList j.toList ∧ l.shape.Contains i ∧
          distance + l'.offset j = l.offset i := by
  obtain ⟨kept, found, shape, strides⟩ := slice_eq_ok ok
  obtain ⟨extents, index⟩ := Slice.selects_onAxes found
  rw [extents_axes, ← shape] at extents index
  refine ⟨extents, ?_⟩
  intro j inside
  obtain ⟨within, offset⟩ := index j.toList (Shape.contains_iff_within.1 inside)
  have rank := (Radix.Within.length_eq within).trans l.shape.length_toList
  refine ⟨⟨_, rank⟩, rfl, Shape.contains_iff_within.2 within, ?_⟩
  rw [← strides, strides_axes] at offset
  exact offset

end Layout

namespace SliceStep

def extents : List SliceStep → List Nat → List Nat
  | [], es => es
  | step :: rest, es => extents rest (Slice.extents step.entries es)

/-- The index of the array to which a chain of requests sends an index of its result. The last
request is the first to be undone. -/
def source : List SliceStep → List Nat → List Nat → List Nat
  | [], _, js => js
  | step :: rest, es, js =>
    Slice.source step.entries es (source rest (Slice.extents step.entries es) js)

end SliceStep

/-- A chain of requests, however long, selects the elements that the composed map of indices names.
-/
theorem AnySpan.sliceAll_selects {s r : AnySpan t} {steps : List SliceStep}
    (ok : s.sliceAll steps = .ok r) :
    r.span.space = s.span.space ∧
      r.span.shape.toList = SliceStep.extents steps s.span.shape.toList ∧
      ∃ distance : Int, r.span.start = s.span.start.shift distance ∧
        ∀ j, r.span.shape.Contains j → ∃ i : Index s.rank,
          i.toList = SliceStep.source steps s.span.shape.toList j.toList ∧
            s.span.shape.Contains i ∧
            distance + r.span.layout.offset j = s.span.layout.offset i := by
  -- The distances of the requests add up, so the first one is set against all of the rest.
  induction steps generalizing s with
  | nil =>
    obtain rfl := Except.ok.inj ok
    refine ⟨rfl, rfl, 0, by simp [Address.shift], ?_⟩
    intro j inside
    exact ⟨j, rfl, inside, Int.zero_add _⟩
  | cons step rest ih =>
    obtain ⟨next, first, ok⟩ := Outcome.bind_eq_ok_iff.1 ok
    obtain ⟨⟨layout, near⟩, sliced, first⟩ := Outcome.bind_eq_ok_iff.1 first
    obtain rfl := Except.ok.inj first
    obtain ⟨space, shape, far, start, index⟩ := ih ok
    obtain ⟨extents, selects⟩ := Layout.slice_selects sliced
    change layout.shape.toList = Slice.extents step.entries s.span.shape.toList at extents
    refine ⟨space, ?_, near + far, ?_, ?_⟩
    · exact shape.trans (congrArg (SliceStep.extents rest) extents)
    · exact start.trans (Address.shift_shift _ _ _)
    · intro j inside
      obtain ⟨middle, undone, between, later⟩ := index j inside
      obtain ⟨i, found, within, earlier⟩ := selects middle between
      refine ⟨i, ?_, within, ?_⟩
      · calc
          i.toList = Slice.source step.entries s.span.shape.toList middle.toList := found
          _ = SliceStep.source (step :: rest) s.span.shape.toList j.toList := by
            rw [undone]
            exact congrArg
              (fun es => Slice.source step.entries s.span.shape.toList
                (SliceStep.source rest es j.toList)) extents
      · calc
          near + far + r.span.layout.offset j = near + (far + r.span.layout.offset j) :=
            Int.add_assoc _ _ _
          _ = near + layout.offset middle := congrArg (near + ·) later
          _ = s.span.layout.offset i := earlier

def sheet : Span .f32 2 :=
  ⟨.host, .start (.buffer 0), .contiguous ⟨#v[5, 6]⟩⟩

-- The rows from the last one on and every other column; of these, the last column without its
-- first row.
def cornerOfReversedSheet : List SliceStep :=
  [⟨[.reversed, .newAxis, .range none none 2], 3⟩, ⟨[.since 1, .all, .index (-1)], 2⟩]

def corner : Span .f32 2 :=
  ⟨.host, ⟨.buffer 0, 23⟩, ⟨⟨#v[4, 1]⟩, ⟨#v[-1, 0]⟩⟩⟩

theorem sliceAll_selects_corner :
    AnySpan.sliceAll ⟨sheet⟩ cornerOfReversedSheet = .ok ⟨corner⟩ ∧
      corner.shape.Contains #v[1, 0] ∧
      ∃ i : Index 2, i.toList = [2, 4] ∧ sheet.shape.Contains i ∧
        corner.cell #v[1, 0] = sheet.cell i := by
  have ok : AnySpan.sliceAll ⟨sheet⟩ cornerOfReversedSheet = .ok ⟨corner⟩ := rfl
  have inside : corner.shape.Contains #v[1, 0] := by decide
  obtain ⟨_, _, distance, start, index⟩ := AnySpan.sliceAll_selects ok
  obtain ⟨i, found, within, offset⟩ := index #v[1, 0] inside
  refine ⟨ok, inside, i, found.trans ?_, within, ?_⟩
  · simp [SliceStep.source, Slice.source, Slice.extents, cornerOfReversedSheet, Slice.reversed,
      Slice.since, Slice.keptExtent, Slice.position, Slice.selection, Slice.settle, Slice.walk,
      sheet, Span.shape, Layout.contiguous, Shape.toList]
  · calc
      corner.cell #v[1, 0] = (sheet.start.shift distance).shift (corner.layout.offset #v[1, 0]) :=
        congrArg (fun a : Address => a.shift (corner.layout.offset #v[1, 0])) start
      _ = sheet.start.shift (distance + corner.layout.offset #v[1, 0]) := Address.shift_shift _ _ _
      _ = sheet.cell i := congrArg sheet.start.shift offset

end Strided
