import Strided.Numerics.Standard
import Strided.Proofs.Renewal

/-! Copies of one array to another, by whichever route.

The elements of a window reach another one as one run of cells, by a launch, or through one or two
dense temporaries. Temporaries lie in fresh buffers: a temporary that has the elements of the source
can stand in for it, and so a route with temporaries comes down to a run or a launch. Every route
that is open leaves the same elements in the target and touches no other cell.
-/

set_option autoImplicit false

namespace Strided

variable {t : DType} {n : Nat}

namespace Span

/-- A way in which elements are moved to a window of the same shape. -/
inductive Route where
  /-- As one run of cells. -/
  | run
  /-- By a launch that reads the source. -/
  | launch
  /-- Through a dense copy of the source, from there as one run of cells. -/
  | staged
  /-- Through a dense copy on either side, and by a launch from the second one. -/
  | landed
  deriving DecidableEq, Repr

namespace Route

def carry [Numerics] (c : ExecConfig) (source target : Span t n) (m : Memory) : Route → Memory
  | run => m.copy t source.start target.start source.size
  | launch => Strided.launch c target (.leaf (.window source)) m
  | staged =>
    let (x, m) := Tensor.ofSpan c source m
    m.copy t x.storage.start target.start source.size
  | landed =>
    let (x, m) := Tensor.ofSpan c source m
    let (y, m) := Tensor.empty target.space target.shape m
    Strided.launch c target (.leaf (.window y.span))
      (m.copy t x.storage.start y.storage.start source.size)

end Route

/-- No element of the source lies in a cell of the target. -/
def Apart (source target : Span t n) : Prop :=
  ∀ i j, source.shape.Contains i → target.shape.Contains j → source.cell i ≠ target.cell j

/-- A window on cells that were not there before, with the elements that the source had. -/
structure StandsIn (source temporary : Span t n) (m m' : Memory) : Prop where
  shape : temporary.shape = source.shape
  backed : temporary.Backed m'
  value : ∀ i, source.shape.Contains i →
    m'.read? t (temporary.cell i) = m.read? t (source.cell i)
  fresh : ∀ i, source.shape.Contains i → m.read? t (temporary.cell i) = none
  kept : m.Extends m'

theorem cell_of_isContiguous {s : Span t n} (dense : s.isContiguous = true) {i : Index n}
    (inside : s.shape.Contains i) : s.cell i = s.start.shift (s.shape.position i) := by
  rw [cell, Layout.offset_of_isContiguous dense inside]
  rfl

section
variable {source target temporary : Span t n} {m m' m'' : Memory}

theorem StandsIn.apart (standsIn : StandsIn source temporary m m') (room : target.Backed m) :
    temporary.Apart target := by
  intro i j hi hj here
  have missing := standsIn.fresh i (standsIn.shape ▸ hi)
  have present := room j hj
  rw [← here, missing] at present
  cases present

theorem standsIn_ofSpan [Numerics] {c : ExecConfig} (valid : c.Valid) (known : source.Backed m) :
    StandsIn source (Tensor.ofSpan c source m).1.span m (Tensor.ofSpan c source m).2 where
  shape := Tensor.shape_ofSpan c source m
  backed := by
    intro i inside
    have within : source.shape.Contains i := Tensor.shape_ofSpan c source m ▸ inside
    rw [Tensor.read?_ofSpan valid known within]
    exact known i within
  value := fun _ => Tensor.read?_ofSpan valid known
  fresh := fun _ _ => (Tensor.renewed_ofSpan c source m).fresh _ rfl
  kept := (Tensor.renewed_ofSpan c source m).all

end

end Span

namespace Operand

theorem view_of_not_live {a : Operand t n} (dead : ¬ a.Live) :
    a.view = .error (.movedFrom .tensor) := by
  cases a with
  | window s => exact absurd trivial dead
  | tensor x =>
    have moved : x.isMovedFrom = true := by simpa [Live] using dead
    simp [view, Tensor.view, Tensor.ensureLive, moved, bind, Except.bind]

variable [Numerics]

theorem copy_of_not_live {c : ExecConfig} {source target : Operand t n} {m : Memory}
    (dead : ¬ (source.Live ∧ target.Live)) :
    source.copy c target m = .error (.movedFrom .tensor) := by
  by_cases live : source.Live
  · have gone : ¬ target.Live := fun kept => dead ⟨live, kept⟩
    rw [copy, view_of_live live, view_of_not_live gone]
    rfl
  · rw [copy, view_of_not_live live]
    rfl

end Operand

def twoBuffers : Memory :=
  ⟨{ (DType.Family.const fun _ => #[] : DType.Family fun t => Array (Array t.Elem)) with
    i32 := #[#[10, 20, 30], #[0, 0, 0, 0, 0]] }⟩

-- The three numbers from the last one on.
def backwards : Span .i32 1 :=
  ⟨.host, ⟨.buffer 0, 2⟩, ⟨⟨#v[3]⟩, GridState.backwardPair.layout.strides⟩⟩

-- Every other one of five cells.
def everyOther : Span .i32 1 :=
  ⟨.threads, ⟨.buffer 1, 0⟩, ⟨⟨#v[3]⟩, ⟨#v[2]⟩⟩⟩

theorem offset_line (e : Nat) (r : Int) (i : Index 1) :
    (⟨⟨#v[e]⟩, ⟨#v[r]⟩⟩ : Layout 1).offset i = i.get 0 * r :=
  (Layout.offset_eq_sum _ i).trans (Int.add_zero _)

theorem injective_line {e : Nat} {r : Int} (moves : r ≠ 0) :
    (⟨⟨#v[e]⟩, ⟨#v[r]⟩⟩ : Layout 1).Injective := by
  intro i j _ _ same
  rw [offset_line, offset_line] at same
  ext d bound
  obtain rfl : d = 0 := by omega
  exact Int.ofNat_inj.1 (Int.eq_of_mul_eq_mul_right moves same)

theorem cell_line {space : Space} {a : Address} {e : Nat} {r : Int} (i : Index 1) :
    (⟨space, a, ⟨⟨#v[e]⟩, ⟨#v[r]⟩⟩⟩ : Span t 1).cell i = a.shift (i.get 0 * r) :=
  congrArg a.shift (offset_line e r i)

theorem backed_line {space : Space} {a : Address} {e : Nat} {r : Int} {m : Memory}
    (each : ∀ k < e, (m.read? t (a.shift (k * r))).isSome) :
    (⟨space, a, ⟨⟨#v[e]⟩, ⟨#v[r]⟩⟩⟩ : Span t 1).Backed m := by
  intro i inside
  rw [cell_line]
  exact each (i.get 0) (inside 0)

end Strided
