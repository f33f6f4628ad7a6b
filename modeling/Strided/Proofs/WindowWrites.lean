import Strided.Numerics.Standard
import Strided.Proofs.Fitting
import Strided.Proofs.Narrowing
import Strided.Proofs.Writing

/-! Writing through a window that was sliced on words.

A window of a tensor whose size and strides are words has no more elements than the tensor. Every
number on the way to one of its offsets is the offset of an element itself, hence less far from the
first one than the tensor has elements. So with a window at hand, only the expression that is to be
written can still go beyond words.
-/

set_option autoImplicit false

namespace Strided

open Calculation (Settles settles_pure settles_run_except)

variable {t : DType} {n k : Nat}

-- Both ends of an offset lie in the run of cells of the tensor.
theorem Span.Picks.settles_offsetSteps {x : Tensor t k} {s : Span t n}
    {select : Index n → Index k} (picks : x.span.Picks s select)
    (dense : x.layout = .contiguous x.shape) (small : x.shape.Addressable)
    (narrow : s.shape.Addressable) {i : Index n} (inside : s.shape.Contains i) :
    (s.layout.offsetSteps i).Settles (s.layout.offset i) := by
  have within := Shape.contains_iff_within.1 inside
  have place {j : Index n} (here : s.shape.Contains j) :
      s.start.cell + s.layout.offset j = x.storage.start.cell + x.shape.position (select j) := by
    rw [← Layout.offset_contiguous, ← dense]
    exact congrArg Address.cell (picks.cell j here)
  have index {js : List Nat} (rest : Radix.Within s.shape.toList js) :
      ∃ j : Index n, j.toList = js ∧ s.shape.Contains j := by
    have length : js.length = n := (Radix.Within.length_eq rest).trans s.shape.length_toList
    refine ⟨⟨js.toArray, by simpa using length⟩, by simp, ?_⟩
    exact Shape.contains_iff_within.2 (by simpa using rest)
  obtain ⟨o, origin, start⟩ := index (Layout.within_zeros within)
  have none : s.layout.offset o = 0 := by
    rw [Layout.offset, origin, Layout.travel_zeros]
  have first := place start
  rw [none] at first
  have bounded (js : List Nat) (rest : Radix.Within s.shape.toList js) :
      IsWord (Layout.travel js s.layout.strides.toList) := by
    obtain ⟨j, rfl, here⟩ := index rest
    have other := place here
    have low := Shape.position_lt_size (picks.inside o start)
    have high := Shape.position_lt_size (picks.inside j here)
    have size : IsWord x.shape.size := small.size_word
    change IsWord (s.layout.offset j)
    change (x.shape.position (select o)) < x.shape.size at low
    change (x.shape.position (select j)) < x.shape.size at high
    unfold IsWord at *
    omega
  have fits : (s.layout.offsetSteps i).Fits := Layout.fits_travelSteps_of_box within
    narrow.extents (fun js rest => by simpa using bounded js rest) bounded
  exact fits.settles (s.layout.unbounded_offsetSteps i)

theorem Span.settles_setSteps {s : Span t n} {i : Index n} (v : t.Elem) (m : Memory)
    (placed : s.shape.Contains i → (s.layout.offsetSteps i).Settles (s.layout.offset i)) :
    (s.setSteps i v m).run.Settles (s.set? i v m) :=
  (settles_cellSteps placed).run_bind fun _ _ => settles_pure _

/-- Only the arrays of an expression take more to calculate than the window that is written. -/
def Writing.Fits [Numerics] (w : Workspace) (c : ExecConfig) : Writing n t → Prop
  | assign e | update _ e => (w.exprSteps c e).run.Fits
  | fill _ | set _ _ => True

namespace Workspace

variable {w : Workspace} {c : ExecConfig}

theorem settles_withMemorySteps {x : ExceptT Error Calculation Memory} {r : Except Error Memory}
    (settles : x.run.Settles r) : (w.withMemorySteps x).run.Settles (w.withMemory r) := by
  have done := (settles.run_adapt Failure.error).run_bind
    (f := fun m => pure { w with memory := m }) (g := fun m => .ok { w with memory := m })
    fun _ _ => settles_pure _
  cases r <;> exact done

theorem settles_settleSteps {x : ExceptT Failure Calculation Workspace}
    {r : Except Failure Workspace} (settles : x.run.Settles r) :
    (w.settleSteps x).Settles (w.settle r) := by
  refine settles.bind ?_
  cases r <;> exact settles_pure _

section
variable {name : String} {x : Tensor t k} {slices : List SliceStep} {s : Span t n}
  (known : w.tensor? name = some ⟨x⟩) (live : x.isMovedFrom = false)
  (sliced : (AnySpan.sliceAllSteps ⟨x.span⟩ slices).run.Settles (.ok ⟨s⟩))
include known live sliced

theorem settles_windowSteps_sliced :
    (w.windowSteps t name slices).run.Settles (.ok ⟨s⟩) := by
  have viewed : x.view = .ok x.span := Operand.view_of_live (a := .tensor x) live
  have found : (do AnySpan.sliceAllSteps ⟨← x.view⟩ slices :
      ExceptT Error Calculation (AnySpan t)).run.Settles (.ok ⟨s⟩) := by
    rw [viewed]
    exact sliced
  rw [windowSteps, find_eq_ok_iff.2 known]
  refine (settles_run_except (.ok _)).run_ok_bind ?_
  rw [dif_pos rfl]
  exact found.run_adapt Failure.error

theorem settles_operandSteps_sliced :
    (w.operandSteps t n ⟨name, some slices⟩).run.Settles (.ok (.window s)) := by
  have window := settles_windowSteps_sliced known live sliced
  have view : (w.viewSteps t n name slices).run.Settles (.ok s) := by
    refine window.run_ok_bind ?_
    rw [dif_pos rfl]
    exact settles_pure _
  exact view.run_ok_bind (settles_pure _)

theorem settles_runSteps_sliced [Numerics] (picked : ∀ i, s.shape.Contains i →
      (s.layout.offsetSteps i).Settles (s.layout.offset i))
    (narrow : s.shape.Addressable) {writing : Writing n t} (fits : writing.Fits w c) :
    (w.runSteps c (writing.command ⟨name, some slices⟩)).Settles
      (w.run c (writing.command ⟨name, some slices⟩)) := by
  have found := AnySpan.sliceAll_of_settles sliced
  rw [run_sliced known live found]
  have target := settles_operandSteps_sliced known live sliced
  have evaluated {e : Expr n t} {m : Memory} :
      (s.assignSteps c e m).run.Settles (s.assign c e m) :=
    Span.settles_assignSteps fun _ _ _ => narrow
  have resolved {e : Term (Reference n) t} (fits : (w.exprSteps c e).run.Fits) :
      (w.exprSteps c e).run.Settles (w.expr c e) :=
    fits.settles (unbounded_exprSteps e)
  cases writing with
  | fill v =>
    refine settles_settleSteps ?_
    rw [fillSteps, typeOf_sliced known found]
    exact (settles_run_except (.ok (t, n))).run_ok_bind
      (target.run_ok_bind (settles_withMemorySteps evaluated))
  | assign e =>
    refine target.bind ((resolved fits).bind ?_)
    rw [Writing.outcome]
    cases w.expr c e with
    | error fault => exact settles_pure _
    | ok r =>
      refine evaluated.bind ?_
      change (_ : Calculation _).Settles (w.settle (w.withMemory (s.assign c r.1 r.2)))
      cases s.assign c r.1 r.2 <;> exact settles_pure _
  | update op e =>
    refine settles_settleSteps (target.run_ok_bind ((resolved fits).run_bind fun r _ => ?_))
    exact settles_withMemorySteps evaluated
  | set i v =>
    have stored := Span.settles_setSteps v w.memory (picked i)
    refine settles_settleSteps (target.run_ok_bind ?_)
    refine (stored.run_adapt Failure.outOfBounds).bind ?_
    rw [Writing.outcome]
    cases s.set? i v w.memory <;> exact settles_pure _

end

/-- A window that was sliced from a tensor has elements of it, each once, and every write through it
is performed. -/
theorem write_exact [Numerics] {c : ExecConfig} (valid : c.validate = .ok ()) {w : Workspace}
    {name : String} {x : Tensor t k} (known : w.tensor? name = some ⟨x⟩)
    (holds : x.Holds w.memory) (small : x.shape.Addressable) {slices : List SliceStep}
    {s : Span t n} (sliced : (AnySpan.sliceAllSteps ⟨x.span⟩ slices).run.Settles (.ok ⟨s⟩)) :
    ∃ select : Index n → Index k,
      (∀ i, s.shape.Contains i →
        x.shape.Contains (select i) ∧ s.cell i = x.span.cell (select i)) ∧
      (∀ i j, s.shape.Contains i → s.shape.Contains j → s.cell i = s.cell j → i = j) ∧
      ∀ writing : Writing n t, writing.Fits w c → ∃ result w',
        (w.runSteps c (writing.command ⟨name, some slices⟩)).Settles (result, w') ∧
          writing.Performed c x s select w result w' := by
  have valid := ExecConfig.validate_eq_ok_iff.1 valid
  have found := AnySpan.sliceAll_of_settles sliced
  have narrow : s.shape.Addressable := AnySpan.addressable_sliceAll found small
  obtain ⟨select, inside, distinct, written⟩ := write_unbounded valid known holds found
  obtain ⟨other, picks⟩ := AnySpan.exists_picks_sliceAll found
  refine ⟨select, inside, distinct, fun writing fits => ⟨_, _, ?_, written writing _ _ rfl⟩⟩
  exact settles_runSteps_sliced known holds.live sliced
    (fun i within => picks.settles_offsetSteps holds.dense small narrow within) narrow fits

end Workspace

def grid : Tensor .i32 2 :=
  ⟨.contiguous ⟨#v[3, 4]⟩, ⟨.host, .buffer 0, 12, 12, false⟩⟩

-- A grid that counts from 0 to 11.
def gridAlone : Workspace :=
  (⟨⟨{ (DType.Family.const fun _ => #[] : DType.Family fun t => Array (Array t.Elem)) with
    i32 := #[#[0, 1, 2, 3, 4, 5, 6, 7, 8, 9, 10, 11]] }⟩, fun _ => none⟩ : Workspace).put "a" grid

-- The two upper elements of the third column, from below.
def cornerOfGrid : Span .i32 2 :=
  ⟨.host, ⟨.buffer 0, 7⟩, ⟨⟨#v[2, 1]⟩, corner.layout.strides⟩⟩

def addHundred : Writing 2 .i32 :=
  .update .add (.leaf (.scalar (100 : Int32)))

theorem write_exact_cornerOfGrid :
    oneThread.validate = .ok () ∧ gridAlone.tensor? "a" = some ⟨grid⟩ ∧
      grid.Holds gridAlone.memory ∧ grid.shape.Addressable ∧
      (AnySpan.sliceAllSteps ⟨grid.span⟩ cornerOfReversedSheet).run.Settles
        (.ok ⟨cornerOfGrid⟩) ∧
      Writing.Fits gridAlone oneThread addHundred ∧
      ∃ w', (gridAlone.runSteps oneThread
          (addHundred.command ⟨"a", some cornerOfReversedSheet⟩)).Settles (.ok (), w') ∧
        w'.memory.read? .i32 ⟨.buffer 0, 6⟩ = some (106 : Int32) ∧
        w'.memory.read? .i32 (grid.span.cell #v[2, 1]) = some (5 : Int32) := by
  have valid : oneThread.validate = .ok () := rfl
  have known : gridAlone.tensor? "a" = some ⟨grid⟩ := rfl
  have holds : grid.Holds gridAlone.memory := ⟨rfl, rfl, by decide⟩
  have small : grid.shape.Addressable := Shape.addressable_of_filled (by decide) (by decide)
  have sliced : (AnySpan.sliceAllSteps ⟨grid.span⟩ cornerOfReversedSheet).run.Settles
      (.ok ⟨cornerOfGrid⟩) := ⟨rfl, rfl⟩
  have fits : Writing.Fits gridAlone oneThread addHundred := by
    change (gridAlone.exprSteps oneThread _).run.Fits
    decide
  have resolved : gridAlone.expr oneThread (.leaf (.scalar (100 : Int32)) :
      Term (Reference 2) .i32) = .ok (.leaf (.scalar (100 : Int32)), gridAlone.memory) := rfl
  obtain ⟨select, picked, -, written⟩ := Workspace.write_exact valid known holds small sliced
  obtain ⟨result, w', settles, done⟩ := written addHundred fits
  have accepted : Writing.Accepted gridAlone oneThread cornerOfGrid addHundred _ :=
    .update resolved (cornerOfGrid.accepts_scalar (100 : Int32))
  obtain rfl : result = .ok () := done.succeeds.2 ⟨_, accepted⟩
  refine ⟨valid, known, holds, small, sliced, fits, w', settles, ?_, ?_⟩
  · have inside : cornerOfGrid.shape.Contains #v[1, 0] := by decide
    have apart : Writing.Elementwise gridAlone oneThread cornerOfGrid addHundred := by
      intro e m found
      cases resolved.symm.trans found
      exact Term.elementwise_scalar _ _
    have value := done.values _ accepted apart #v[1, 0] inside trivial
    rw [← (picked _ inside).2] at value
    exact value.trans rfl
  · refine (done.others #v[2, 1] (by decide) fun i inside _ same => ?_).trans rfl
    obtain ⟨-, cell⟩ := picked i inside
    rw [← same] at cell
    have row : i.get 0 < 2 := inside 0
    have cells : (7 : Int) + cornerOfGrid.layout.offset i = 5 := congrArg Address.cell cell
    rw [Layout.offset_eq_sum, Fin.sum_univ_two] at cells
    change (7 : Int) + ((i.get 0 : Int) * -1 + (i.get 1 : Int) * 0) = 5 at cells
    omega

def line : Tensor .i32 1 :=
  ⟨.contiguous ⟨.replicate 1 3⟩, ⟨.host, .buffer 0, 3, 3, false⟩⟩

def farBeyondLine : Span .i32 1 :=
  ⟨.host, ⟨.buffer 0, 0⟩, ⟨⟨#v[18446744073709551615]⟩, ⟨#v[9223372036854775807]⟩⟩⟩

/-- The first number of three, by the largest step there is. One build does not get to the end, and
the other one to a window with elements that the line does not have. -/
theorem AnySpan.sliceAllSteps_of_largestStep :
    line.Holds threeNumbers ∧
      (sliceAllSteps ⟨line.span⟩ [⟨[.range none none 9223372036854775807], 1⟩]).run.checked =
        none ∧
      (sliceAllSteps ⟨line.span⟩ [⟨[.range none none 9223372036854775807], 1⟩]).run.wrapping =
        some (.ok ⟨farBeyondLine⟩) ∧
      farBeyondLine.shape.Contains #v[1] ∧
      threeNumbers.read? .i32 (farBeyondLine.cell #v[1]) = none :=
  ⟨⟨rfl, rfl, by decide⟩, rfl, rfl, by decide, by decide⟩

end Strided
