import Strided.Numerics.Standard
import Strided.Proofs.Fitting
import Strided.Proofs.Joining
import Strided.Proofs.Narrowing
import Strided.Proofs.Simulation
import Strided.Proofs.Transferring
import Strided.Proofs.Writing

/-! Evaluating over slices, and slicing what was evaluated.

A slicing request looks at the extents of an array and at nothing else. So arrays of one shape are
sliced alike: one map of indices says for each of them, and for the dense result of an expression
over them, which element a slice has at an index. The value of an expression at an index comes from
the elements at that index, and hence the two orders leave the same values.
-/

set_option autoImplicit false

namespace Strided

variable {t : DType} {n k : Nat}

/-- A request leaves shape `q` of every window of shape `s`, with the elements at the selected
indices. -/
def Shape.Restricts (s : Shape n) (entries : List Slice) (q : Shape k)
    (select : Index k → Index n) : Prop :=
  ∀ (u : DType) (a : Span u n), a.shape = s →
    ∃ b : Span u k, a.slice entries k = .ok b ∧ b.shape = q ∧ a.Picks b select

theorem Span.Picks.congr {a : Span t n} {b : Span t k} {select next : Index k → Index n}
    (picks : a.Picks b select) (agree : ∀ j, b.shape.Contains j → select j = next j) :
    a.Picks b next where
  space := picks.space
  inside j within := agree j within ▸ picks.inside j within
  cell j within := agree j within ▸ picks.cell j within
  distinct i j hi hj same := by
    rw [← agree i hi, ← agree j hj] at same
    exact picks.distinct i j hi hj same

theorem Layout.exists_restricts {s : Shape n} {entries : List Slice} {r : Layout k × Int}
    (sliced : (contiguous s).slice entries k = .ok r) :
    ∃ select, s.Restricts entries r.1.shape select := by
  obtain ⟨-, selects⟩ := slice_selects sliced
  choose! select found inside offset using selects
  refine ⟨select, fun u a same => ?_⟩
  have alike : Outcome.Alike (fun r r' => r.1.shape = r'.1.shape) (a.layout.slice entries k)
      ((contiguous s).slice entries k) := alike_slice same entries k
  obtain ⟨r', done, shape⟩ := alike.exists_ok sliced
  have ok : a.slice entries k = .ok ⟨a.space, a.start.shift r'.2, r'.1⟩ :=
    Outcome.bind_eq_ok_iff.2 ⟨r', done, rfl⟩
  obtain ⟨other, picks, source⟩ := Span.exists_picks_slice ok
  refine ⟨_, ok, shape, picks.congr fun j within => ?_⟩
  -- Both maps of indices come from the same entries and extents.
  refine Vector.toList_inj.1 ((source j within).trans ?_)
  rw [same]
  exact (found j (shape ▸ within)).symm

namespace Term

section
variable {L M : DType → Type} {R : (t : DType) → L t → M t → Prop}

theorem exists_traverse {ε : Type} {f : {t : DType} → L t → Except ε (M t)} {e : Term L t}
    (each : ∀ a ∈ e.leaves, ∃ b, f a.2 = .ok b ∧ R a.1 a.2 b) :
    ∃ e', e.traverse f = .ok e' ∧ Pair R e e' := by
  induction e with
  | leaf a =>
    obtain ⟨b, done, related⟩ := each ⟨_, a⟩ (List.mem_singleton.2 rfl)
    exact ⟨.leaf b, Outcome.map_eq_ok_iff.2 ⟨b, done, rfl⟩, .leaf related⟩
  | binary op l r ihl ihr =>
    obtain ⟨l', left, first⟩ := ihl fun a member => each a (List.mem_append_left _ member)
    obtain ⟨r', right, second⟩ := ihr fun a member => each a (List.mem_append_right _ member)
    refine ⟨.binary op l' r', Outcome.bind_eq_ok_iff.2 ⟨l', left, ?_⟩, .binary op first second⟩
    exact Outcome.bind_eq_ok_iff.2 ⟨r', right, rfl⟩
  | unary op e ih =>
    obtain ⟨e', done, operand⟩ := ih each
    exact ⟨.unary op e', Outcome.map_eq_ok_iff.2 ⟨e', done, rfl⟩, .unary op operand⟩
  | cast t e ih =>
    obtain ⟨e', done, operand⟩ := ih each
    exact ⟨.cast t e', Outcome.map_eq_ok_iff.2 ⟨e', done, rfl⟩, .cast t operand⟩

theorem Pair.eval_eq [Numerics] {f : {t : DType} → L t → t.Elem} {g : {t : DType} → M t → t.Elem}
    {e : Term L t} {e' : Term M t} (pair : Pair (fun _ a b => f a = g b) e e') :
    e.eval f = e'.eval g := by
  induction pair with
  | leaf same => exact same
  | binary op _ _ ihl ihr => rw [Term.eval, Term.eval, ihl, ihr]
  | unary op _ ih => rw [Term.eval, Term.eval, ih]
  | cast t _ ih => rw [Term.eval, Term.eval, ih]

end

/-- The arrays of the expression, of which there are some, are live, lie in one space and have one
shape and all of their elements. -/
structure Uniform (e : Expr n t) (space : Space) (s : Shape n) (m : Memory) : Prop where
  some : ∃ (u : DType) (a : Operand u n), ⟨u, .array a⟩ ∈ e.leaves
  live : e.Live
  home : e.LivesIn space
  shape : ∀ (u : DType) (a : Operand u n), ⟨u, .array a⟩ ∈ e.leaves → a.span.shape = s
  holds : e.Holds m

section
variable {e : Expr n t} {space : Space} {s : Shape n} {m m' : Memory}

theorem Holds.mono (holds : e.Holds m) (all : m.Extends m') : e.Holds m' :=
  fun u a member live => (holds u a member live).mono all

theorem Uniform.mono (uniform : e.Uniform space s m) (all : m.Extends m') :
    e.Uniform space s m' :=
  { uniform with holds := uniform.holds.mono all }

theorem Uniform.shape_eq (uniform : e.Uniform space s m) : e.shape = .ok s := by
  refine shape_eq_ok_iff.2 ⟨uniform.live, ?_, fun d => Or.inr ?_⟩
  · intro p member
    obtain ⟨⟨u, a⟩, leaf, rfl⟩ := List.mem_map.1 member
    cases a with
    | scalar v => exact Shape.stretches_ones s
    | array a =>
      have same : a.span.shape = s := uniform.shape u a leaf
      exact same ▸ Shape.Stretches.refl _
  · obtain ⟨u, a, member⟩ := uniform.some
    have same : a.span.shape = s := uniform.shape u a member
    exact ⟨s, List.mem_map.2 ⟨_, member, same⟩, rfl⟩

theorem eval_mono [Numerics] (joined : e.shape = .ok s) (holds : e.Holds m) (all : m.Extends m')
    {i : Index n} (inside : s.Contains i) :
    e.eval (Leaf.valueAt m' s i) = e.eval (Leaf.valueAt m s i) := by
  apply eval_congr
  rintro ⟨u, a⟩ member
  cases a with
  | scalar v => rfl
  | array a =>
    have below : a.span.shape.Stretches s :=
      stretches_of_mem_leaves joined (Shape.Stretches.refl s) member
    have live : a.Live := (shape_eq_ok_iff.1 joined).1 _ member
    exact Span.read_mono (holds u a member live).backed all (Shape.contains_narrow below inside)

end

end Term

namespace Tensor

theorem sound_empty (space : Space) (s : Shape n) (m : Memory) :
    (empty (t := t) space s m).1.Sound (empty (t := t) space s m).2 :=
  have kept := (made_empty (t := t) space s m).kept
  ⟨kept.dense, fun _ => Storage.len_resizeKeeping _ _ _ _, kept.storage⟩

-- A new tensor takes the shape of an expression, if it does not have it from the beginning, and
-- shares no buffer with anything that was there before.
theorem exists_ofExpr [Numerics] {c : ExecConfig} (valid : c.Valid) {space : Space} {e : Expr n t}
    {s : Shape n} {m : Memory} (joined : e.shape = .ok s) (home : e.LivesIn space)
    (holds : e.Holds m) :
    ∃ x m', ofExpr c space e m = .ok (x, m') ∧ x.space = space ∧ x.shape = s ∧ x.Holds m' ∧
      m.Extends m' ∧ ∀ i, s.Contains i →
        m'.read? t (x.span.cell i) = some (e.eval (Leaf.valueAt m s i)) := by
  obtain ⟨live, join⟩ := Term.shape_eq_ok_iff.1 joined
  have renewed := renewed_empty (t := t) space (.zeros : Shape n) m
  have sound := sound_empty (t := t) space (.zeros : Shape n) m
  have settled := space_empty (t := t) space (.zeros : Shape n) m
  have blank : (empty (t := t) space (.zeros : Shape n) m).1.shape = .zeros := rfl
  rw [ofExpr, new]
  generalize empty (t := t) space (.zeros : Shape n) m = r at renewed sound settled blank ⊢
  obtain ⟨x, m₀⟩ := r
  -- An array of rank 0 has one shape only, and any other one has none while it is new.
  obtain ⟨fits, own⟩ : (x.Shapeless ∨ s.Stretches x.shape) ∧ x.shapeFor s = s := by
    rcases Nat.eq_zero_or_pos n with rfl | positive
    · exact ⟨Or.inr fun d => d.elim0, Shape.ext fun d => d.elim0⟩
    · have shapeless : x.Shapeless := Or.inr ⟨positive, blank⟩
      exact ⟨Or.inl shapeless, if_pos shapeless⟩
  have accepts : x.Accepts e s := ⟨live, join, settled ▸ home, fits⟩
  have avoids : e.Avoids x.storage.base := holds.avoids live renewed.fresh
  have adopted := adopted_adopt sound s
  have shape : (x.adopt s m₀).1.shape = s := adopted.shape.trans own
  have fresh : m.Fresh t (x.adopt s m₀).1.storage.base := by
    rcases adopted.base with same | fresh
    · exact same ▸ renewed.fresh
    · exact Memory.Fresh.of_extends fresh renewed.all
  have assigned := adopted.assigned valid joined (accepts.fits_adopt m₀)
    (holds.mono renewed.all) avoids
  refine ⟨_, _, ?_, assigned.space.trans settled, shape, assigned.sound.holds assigned.live, ?_, ?_⟩
  · simp only [accepts.assign_eq valid]
  · intro u a v found
    refine (assigned.frame u a ?_).trans (renewed.all u a v found)
    rintro rfl i _ rfl
    rw [fresh _ rfl] at found
    cases found
  · intro i inside
    have here : (x.adopt s m₀).1.shape.Contains i := by rwa [shape]
    rw [assigned.value i here, shape, Term.eval_mono joined holds renewed.all inside]

end Tensor

/-- A leaf and its slice by a request: one scalar, or an array of shape `s` and a window of shape
`q` on its elements at the selected indices. -/
inductive Leaf.Cut (s : Shape n) (q : Shape k) (select : Index k → Index n) :
    {t : DType} → Leaf n t → Leaf k t → Prop where
  | scalar {t : DType} (v : t.Elem) : Cut s q select (.scalar v) (.scalar v)
  | array {t : DType} {a : Operand t n} {b : Span t k} (shape : a.span.shape = s)
    (extents : b.shape = q) (picks : a.span.Picks b select) :
    Cut s q select (.array a) (.array (.window b))

section
variable {s : Shape n} {q : Shape k} {select : Index k → Index n} {entries : List Slice}

theorem Leaf.Cut.valueAt {a : Leaf n t} {b : Leaf k t} (cut : Cut s q select a b) (m : Memory)
    {j : Index k} (inside : q.Contains j) : b.valueAt m q j = a.valueAt m s (select j) := by
  cases cut with
  | scalar v => rfl
  | @array a b shape extents picks =>
    have same := picks.cell j (extents ▸ inside)
    rw [Leaf.valueAt, Leaf.valueAt, shape, Operand.span, extents, Shape.narrow_self,
      Shape.narrow_self, Span.read, Span.read, same]

theorem Operand.slice_of_live {a : Operand t n} (live : a.Live) :
    a.slice entries k = a.span.slice entries k := by
  rw [slice, view_of_live live]
  rfl

namespace Term

variable {e : Expr n t} {space : Space} {m : Memory}

theorem Uniform.exists_cut (uniform : e.Uniform space s m)
    (restricts : s.Restricts entries q select) {a : (u : DType) × Leaf n u}
    (member : a ∈ e.leaves) :
    ∃ b, Leaf.slice entries k a.2 = .ok b ∧ Leaf.Cut s q select a.2 b := by
  obtain ⟨u, a⟩ := a
  cases a with
  | scalar v => exact ⟨_, rfl, .scalar v⟩
  | array a =>
    have shape : a.span.shape = s := uniform.shape u a member
    have live : a.Live := uniform.live _ member
    obtain ⟨b, done, extents, picks⟩ := restricts u a.span shape
    refine ⟨.array (.window b), ?_, .array shape extents picks⟩
    rw [Leaf.slice, Operand.slice_of_live live, done]
    rfl

-- What the arrays have in common is common to their slices.
theorem Uniform.of_pair (uniform : e.Uniform space s m) {e' : Expr k t}
    (pair : Pair (fun _ => Leaf.Cut s q select) e e') : e'.Uniform space q m := by
  have back (u : DType) (b : Leaf k u) (member : ⟨u, b⟩ ∈ e'.leaves) :
      ∃ a : Leaf n u, ⟨u, a⟩ ∈ e.leaves ∧ Leaf.Cut s q select a b :=
    pair.symm.of_mem_leaves _ member
  constructor
  case some =>
    obtain ⟨u, a, member⟩ := uniform.some
    obtain ⟨b, there, cut⟩ := pair.of_mem_leaves _ member
    cases cut with
    | array => exact ⟨u, _, there⟩
  case live =>
    rintro ⟨u, b⟩ member
    obtain ⟨a, _, cut⟩ := back u b member
    cases cut <;> trivial
  case home =>
    rintro ⟨u, b⟩ member
    obtain ⟨a, source, cut⟩ := back u b member
    cases cut with
    | scalar v => trivial
    | array _ _ picks => exact picks.space.trans (uniform.home _ source)
  case shape =>
    intro u b member
    obtain ⟨a, _, cut⟩ := back u _ member
    cases cut with
    | array _ extents _ => exact extents
  case holds =>
    intro u b member _
    obtain ⟨a, source, cut⟩ := back u _ member
    cases cut with
    | array _ _ picks =>
      have live := uniform.live _ source
      exact picks.backed (uniform.holds u _ source live).backed

theorem Uniform.slice [Numerics] (uniform : e.Uniform space s m)
    (restricts : s.Restricts entries q select) :
    ∃ e', e.slice entries k = .ok e' ∧ e'.Uniform space q m ∧
      ∀ m' j, q.Contains j →
        e'.eval (Leaf.valueAt m' q j) = e.eval (Leaf.valueAt m' s (select j)) := by
  obtain ⟨e', done, pair⟩ := exists_traverse (f := Leaf.slice entries k)
    (R := fun _ => Leaf.Cut s q select) fun _ member => uniform.exists_cut restricts member
  refine ⟨e', done, uniform.of_pair pair, fun m' j inside => ?_⟩
  have values := pair.symm.imp fun _ _ _ cut => Leaf.Cut.valueAt cut m' inside
  exact values.eval_eq

end Term

theorem Operand.settles_sliceSteps {a : Operand t n} (live : a.Live)
    (settles : (a.span.layout.sliceSteps entries k).Settles (a.span.layout.slice entries k)) :
    (a.sliceSteps entries k).run.Settles (a.slice entries k) := by
  rw [sliceSteps, slice, view_of_live live]
  exact settles.run_bind fun _ _ => Calculation.settles_pure _

/-- Wherever a request fits the common shape of the arrays, an expression can be evaluated over
their slices, in any space and at once or later, and gives the elements of the slice of its value.
The arrays may have other strides than their dense value, so that slicing them has to stay within
words on its own. -/
theorem Tensor.ofExpr_slice [Numerics] {c : ExecConfig} (valid : c.validate = .ok ()) {e : Expr n t}
    {space : Space} {m : Memory} (uniform : e.Uniform space s m) (small : s.Addressable)
    {r : Layout k × Int} (sliced : ((Layout.contiguous s).sliceSteps entries k).Settles (.ok r))
    (fits : (e.sliceSteps entries k).run.Fits) :
    ∃ y m₁ w e', (ofExprSteps c space e m).run.Settles (.ok (y, m₁)) ∧ m.Extends m₁ ∧
      y.shape = s ∧
      (∀ i, s.Contains i →
        m₁.read? t (y.span.cell i) = some (e.eval (Leaf.valueAt m s i))) ∧
      ((Operand.tensor y).sliceSteps entries k).run.Settles (.ok w) ∧ w.shape = r.1.shape ∧
      (e.sliceSteps entries k).run.Settles (.ok e') ∧
      ∀ m', m.Extends m' → ∃ x m₂, (ofExprSteps c space e' m').run.Settles (.ok (x, m₂)) ∧
        m'.Extends m₂ ∧ x.shape = w.shape ∧ ∀ j, w.shape.Contains j →
          ∃ v, m₁.read? t (w.cell j) = some v ∧ m₂.read? t (x.span.cell j) = some v := by
  have valid := ExecConfig.validate_eq_ok_iff.1 valid
  have found := Layout.slice_of_settles sliced
  have narrow : r.1.shape.Addressable := Layout.addressable_slice found small
  obtain ⟨select, restricts⟩ := Layout.exists_restricts found
  obtain ⟨y, m₁, whole, -, shape, settled, all, values⟩ :=
    exists_ofExpr valid uniform.shape_eq uniform.home uniform.holds
  obtain ⟨e', parts, narrowed, commutes⟩ := uniform.slice restricts
  obtain ⟨w, window, extents, picks⟩ := restricts t y.span shape
  have live : (Operand.tensor y).Live := settled.live
  have layout : y.layout = .contiguous s := settled.dense.trans (congrArg _ shape)
  have cut : ((Operand.tensor y).sliceSteps entries k).run.Settles (.ok w) := by
    have sliced_span := (Operand.slice_of_live live).trans window
    rw [← sliced_span]
    refine Operand.settles_sliceSteps live ?_
    change (y.layout.sliceSteps entries k).Settles (y.layout.slice entries k)
    rw [layout, found]
    exact sliced
  refine ⟨y, m₁, w, e', whole ▸ settles_ofExprSteps uniform.shape_eq small, all, shape, values,
    cut, extents, parts ▸ fits.settles (e.unbounded_sliceSteps entries k), fun m' further => ?_⟩
  have later := narrowed.mono further
  obtain ⟨x, m₂, done, -, own, -, kept, results⟩ :=
    exists_ofExpr valid later.shape_eq later.home later.holds
  refine ⟨x, m₂, done ▸ settles_ofExprSteps later.shape_eq narrow, kept, own.trans extents.symm,
    fun j inside => ?_⟩
  have within : s.Contains (select j) := shape ▸ picks.inside j inside
  have here : r.1.shape.Contains j := extents ▸ inside
  refine ⟨_, ?_, results j here⟩
  rw [picks.cell j inside, values _ within, commutes m' j here,
    Term.eval_mono uniform.shape_eq uniform.holds further within]

end

def columnOnThreads : Span .i32 2 :=
  { reversedColumn with space := .threads }

def upright : Tensor .i32 2 :=
  ⟨.contiguous reversedColumn.shape, ⟨.threads, .buffer 0, 3, 3, false⟩⟩

-- Three times the column and itself from behind.
def columnAndBack : Expr 2 .i32 :=
  .binary .mul
    (.binary .sub (.leaf (.array (.window columnOnThreads)))
      (.unary .neg (.leaf (.array (.tensor upright)))))
    (.cast .i32 (.leaf (.scalar (t := .u8) 3)))

-- Every other row from below, a new dimension, and the last column.
def everyOtherRow : List Slice :=
  [.range none none (-2), .newAxis, .index (-1)]

theorem ofExpr_slice_everyOtherRow :
    oneThread.validate = .ok () ∧
      columnAndBack.Uniform .threads reversedColumn.shape threeNumbers ∧
      reversedColumn.shape.Addressable ∧ (columnAndBack.sliceSteps everyOtherRow 2).run.Fits ∧
      ∃ r, ((Layout.contiguous reversedColumn.shape).sliceSteps everyOtherRow 2).Settles (.ok r) ∧
        ∃ y m₁ w e' x m₂, (Tensor.ofExprSteps oneThread .threads columnAndBack
            threeNumbers).run.Settles (.ok (y, m₁)) ∧
          m₁.read? .i32 (y.span.cell #v[0, 0]) = some (120 : Int32) ∧
          ((Operand.tensor y).sliceSteps everyOtherRow 2).run.Settles (.ok w) ∧
          (columnAndBack.sliceSteps everyOtherRow 2).run.Settles (.ok e') ∧
          (Tensor.ofExprSteps oneThread .threads e' m₁).run.Settles (.ok (x, m₂)) ∧
          x.shape = ⟨#v[2, 1]⟩ ∧
          ∃ v, m₁.read? .i32 (w.cell #v[1, 0]) = some v ∧
            m₂.read? .i32 (x.span.cell #v[1, 0]) = some v := by
  have valid : oneThread.validate = .ok () := rfl
  have holds : upright.Holds threeNumbers := ⟨rfl, rfl, by decide⟩
  have arrays {u : DType} {a : Operand u 2} (member : ⟨u, .array a⟩ ∈ columnAndBack.leaves) :
      (⟨u, a⟩ : (u : DType) × Operand u 2) = ⟨.i32, .window columnOnThreads⟩ ∨
        (⟨u, a⟩ : (u : DType) × Operand u 2) = ⟨.i32, .tensor upright⟩ := by
    rcases List.mem_cons.1 member with same | member
    · cases same
      exact Or.inl rfl
    · rcases List.mem_cons.1 member with same | member
      · cases same
        exact Or.inr rfl
      · cases List.mem_singleton.1 member
  have joined : columnAndBack.shape = .ok reversedColumn.shape := rfl
  have uniform : columnAndBack.Uniform .threads reversedColumn.shape threeNumbers := {
    some := ⟨_, _, .head _⟩
    live := (Term.shape_eq_ok_iff.1 joined).1
    home := Term.checkSpace_eq_ok_iff.1 rfl
    shape := by
      intro u a member
      rcases arrays member with same | same <;> cases same <;> rfl
    holds := by
      intro u a member _
      rcases arrays member with same | same <;> cases same
      · exact backed_reversedColumn
      · exact holds }
  have small : reversedColumn.shape.Addressable :=
    Shape.addressable_of_filled (by decide) (by decide)
  have fits : (columnAndBack.sliceSteps everyOtherRow 2).run.Fits := by decide
  have sliced : ((Layout.contiguous reversedColumn.shape).sliceSteps everyOtherRow 2).Settles
      (.ok (_, _)) := ⟨rfl, rfl⟩
  obtain ⟨y, m₁, w, e', whole, all, -, value, window, extents, parts, later⟩ :=
    Tensor.ofExpr_slice valid uniform small sliced fits
  obtain ⟨x, m₂, done, -, shape, values⟩ := later m₁ all
  have inside : w.shape.Contains #v[1, 0] := by
    rw [extents]
    decide
  have first : m₁.read? .i32 (y.span.cell #v[0, 0]) = some (120 : Int32) :=
    (value #v[0, 0] (by decide)).trans rfl
  exact ⟨valid, uniform, small, fits, _, sliced, y, m₁, w, e', x, m₂, whole, first, window, parts,
    done, (shape.trans extents).trans rfl, values _ inside⟩

def everyOtherNegated : Expr 1 .i32 :=
  .unary .neg (.leaf (.array (.window everyOther)))

/-- The stride of the dense value times the step is a word, and that of the operand is none. -/
theorem Term.sliceSteps_of_everyOther :
    everyOtherNegated.Uniform .threads everyOther.shape twoBuffers ∧
      (∃ r, ((Layout.contiguous everyOther.shape).sliceSteps
        [.range none none 4611686018427387904] 1).Settles (.ok r)) ∧
      (everyOtherNegated.sliceSteps [.range none none 4611686018427387904] 1).run.checked =
        none := by
  have joined : everyOtherNegated.shape = .ok everyOther.shape := rfl
  have only {u : DType} {a : Operand u 1} (member : ⟨u, .array a⟩ ∈ everyOtherNegated.leaves) :
      (⟨u, a⟩ : (u : DType) × Operand u 1) = ⟨.i32, .window everyOther⟩ := by
    cases List.mem_singleton.1 member
    rfl
  refine ⟨⟨⟨_, _, .head _⟩, (Term.shape_eq_ok_iff.1 joined).1, Term.checkSpace_eq_ok_iff.1 rfl,
    fun u a member => ?_, fun u a member _ => ?_⟩, ⟨_, rfl, rfl⟩, rfl⟩
  · cases only member
    rfl
  · cases only member
    exact backed_line (by decide)

end Strided
