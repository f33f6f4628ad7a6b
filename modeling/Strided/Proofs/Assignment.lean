import Strided.Proofs.Launching
import Strided.Proofs.Ownership
import Strided.Tensor.Assign

/-! What an assignment accepts, what it writes and what it leaves alone.

A tensor that has no shape of its own takes a buffer for the shape of the expression before the
last check is made. That check then compares a shape with itself, so a refusal never comes after a
change. The buffer is the old one or a fresh one, and neither is read by the expression: every
element is computed from the memory before the assignment.
-/

set_option autoImplicit false

namespace Strided

variable {t : DType} {n : Nat}

namespace Leaf

def LivesIn (space : Space) : Leaf n t → Prop
  | array a => a.span.space = space
  | scalar _ => True

theorem checkSpace_eq_ok_iff {space : Space} {a : Leaf n t} :
    a.checkSpace space = .ok () ↔ a.LivesIn space := by
  cases a with
  | array a => by_cases home : a.span.space = space <;> simp [checkSpace, LivesIn, home]
  | scalar v => simp [checkSpace, LivesIn]

theorem checkSpace_eq_error_iff {space : Space} {a : Leaf n t} {fault : Error} :
    a.checkSpace space = .error fault ↔
      ∃ b : Operand t n, a = .array b ∧ b.span.space ≠ space ∧
        fault = .spaceMismatch space b.span.space := by
  cases a with
  | array a =>
    by_cases home : a.span.space = space <;> simp [checkSpace, home, eq_comm (a := fault)]
  | scalar v => simp [checkSpace]

end Leaf

namespace Term

def LivesIn (e : Expr n t) (space : Space) : Prop :=
  ∀ a ∈ e.leaves, a.2.LivesIn space

theorem checkSpace_eq_ok_iff {e : Expr n t} {space : Space} :
    e.checkSpace space = .ok () ↔ e.LivesIn space :=
  Outcome.forM_eq_ok_iff.trans (forall₂_congr fun _ _ => Leaf.checkSpace_eq_ok_iff)

theorem checkSpace_eq_error_iff {e : Expr n t} {space : Space} {fault : Error} :
    e.checkSpace space = .error fault ↔
      ∃ (before : List ((u : DType) × Leaf n u)) (u : DType) (a : Operand u n)
        (after : List ((u : DType) × Leaf n u)), e.leaves = before ++ ⟨u, .array a⟩ :: after ∧
          (∀ b ∈ before, b.2.LivesIn space) ∧ a.span.space ≠ space ∧
          fault = .spaceMismatch space a.span.space := by
  refine Outcome.forM_eq_error_iff.trans ⟨?_, ?_⟩
  · rintro ⟨before, ⟨u, b⟩, after, split, first, failed⟩
    obtain ⟨a, rfl, away, rfl⟩ := Leaf.checkSpace_eq_error_iff.1 failed
    exact ⟨before, u, a, after, split,
      fun b member => Leaf.checkSpace_eq_ok_iff.1 (first b member), away, rfl⟩
  · rintro ⟨before, u, a, after, split, first, away, rfl⟩
    exact ⟨before, ⟨u, .array a⟩, after, split,
      fun b member => Leaf.checkSpace_eq_ok_iff.2 (first b member),
      Leaf.checkSpace_eq_error_iff.2 ⟨a, rfl, away, rfl⟩⟩

/-- The live operands have cells for all of their elements. -/
def Holds (e : Expr n t) (m : Memory) : Prop :=
  ∀ (u : DType) (a : Operand u n), ⟨u, .array a⟩ ∈ e.leaves → a.Live → a.Holds m

def Avoids (e : Expr n t) (base : Base) : Prop :=
  ∀ a : Operand t n, ⟨t, .array a⟩ ∈ e.leaves → ∀ i, a.span.shape.Contains i →
    (a.span.cell i).base ≠ base

section
variable {e : Expr n t}

-- A fresh buffer holds no element of an operand, since the operands had cells before it.
theorem Holds.avoids {m : Memory} (holds : e.Holds m) (live : e.Live) {base : Base}
    (fresh : ∀ a, a.base = base → m.read? t a = none) : e.Avoids base := by
  intro a member i inside here
  have found := (holds t a member (live _ member)).backed i inside
  rw [fresh _ here] at found
  cases found

-- A kernel over other buffers than that of the target reads no element of the target.
theorem elementwise_lower {target : Span t n} (below : ∀ p ∈ e.parts, p.Stretches target.shape)
    (avoids : e.Avoids target.start.base) :
    (e.lower target.shape).Elementwise target := by
  intro i j hi _ read
  obtain ⟨a, member, same⟩ := mem_reads_lower.1 read
  have inside := Shape.contains_narrow (below _ (List.mem_map_of_mem member)) hi
  exact absurd (congrArg Address.base same).symm (avoids a member _ inside)

theorem valueAt_lower_congr [Numerics] {target : Shape n} {base : Base} {m m' : Memory}
    (below : ∀ p ∈ e.parts, p.Stretches target) (avoids : e.Avoids base)
    (frame : ∀ u a, (u = t → a.base ≠ base) → m'.read? u a = m.read? u a) {i : Index n}
    (inside : target.Contains i) :
    (e.lower target).valueAt m' i = e.eval (Leaf.valueAt m target i) := by
  rw [← eval_lower]
  apply valueAt_congr
  rintro ⟨u, address⟩ read
  obtain ⟨a, member, same⟩ := mem_reads_lower.1 read
  have within := Shape.contains_narrow (below _ (List.mem_map_of_mem member)) inside
  dsimp only at same ⊢
  rw [same]
  apply frame
  rintro rfl
  exact avoids a member _ within

end

end Term

theorem Span.assign_of_stretches [Numerics] {c : ExecConfig} (valid : c.Valid) (target : Span t n)
    {e : Expr n t} (m : Memory) {s : Shape n} (joined : e.shape = .ok s)
    (home : e.LivesIn target.space) (fits : s.Stretches target.shape) :
    target.assign c e m = .ok (launch c target (e.lower target.shape) m) := by
  have enters := Term.checkSpace_eq_ok_iff.2 home
  have checked := Shape.broadcastsTo_eq_ok_iff.2 fits
  simp only [assign, joined, enters, checked, bind, Except.bind, pure, Except.pure]
  split
  · rename_i empty
    rw [launch_of_size_eq_zero valid empty]
  · rfl

namespace Tensor

def Shapeless (x : Tensor t n) : Prop :=
  x.isMovedFrom = true ∨ 0 < n ∧ x.shape = .zeros

instance (x : Tensor t n) : Decidable x.Shapeless :=
  inferInstanceAs (Decidable (_ ∨ _))

/-- The shape of the tensor after the assignment of an expression of shape `s`. -/
def shapeFor (x : Tensor t n) (s : Shape n) : Shape n :=
  if x.Shapeless then s else x.shape

theorem adopt_cases (x : Tensor t n) (s : Shape n) (m : Memory) :
    x.shapeFor s = s ∧ x.adopt s m = x.resizeDiscard s m ∨
      x.isMovedFrom = false ∧ x.shapeFor s = x.shape ∧ x.adopt s m = (x, m) := by
  have unshaped : x.isUnshaped = true ↔ 0 < n ∧ x.shape = .zeros := by
    simp [isUnshaped, Nat.pos_iff_ne_zero]
  cases moved : x.isMovedFrom with
  | true => exact Or.inl ⟨if_pos (Or.inl moved), by simp [adopt, moved]⟩
  | false =>
    have shapeless : x.Shapeless ↔ x.isUnshaped = true := by simp [Shapeless, moved, unshaped]
    by_cases none : x.isUnshaped = true ∧ x.shape ≠ s
    · left
      exact ⟨if_pos (shapeless.2 none.1), by simp [adopt, moved, none]⟩
    · right
      refine ⟨rfl, ?_, ?_⟩
      · unfold shapeFor
        split
        · rename_i some
          by_contra other
          exact none ⟨shapeless.1 some, fun same => other same.symm⟩
        · rfl
      · rw [adopt, moved, Bool.false_or]
        exact if_neg (by simpa using none)

theorem shape_adopt (x : Tensor t n) (s : Shape n) (m : Memory) :
    (x.adopt s m).1.shape = x.shapeFor s := by
  rcases adopt_cases x s m with ⟨shape, resized⟩ | ⟨_, shape, same⟩
  · rw [resized, shape]
    rfl
  · rw [same, shape]

theorem space_adopt (x : Tensor t n) (s : Shape n) (m : Memory) :
    (x.adopt s m).1.space = x.space := by
  rcases adopt_cases x s m with ⟨_, resized⟩ | ⟨_, _, same⟩
  · rw [resized]
    exact Storage.space_resizeKeeping _ _ _ _
  · rw [same]

/-- How a tensor and its memory stand once a shape has been adopted: the tensor is sound, and what
could be read before is as it was. -/
structure Adopted (x : Tensor t n) (s : Shape n) (m : Memory) (y : Tensor t n) (m' : Memory) :
    Prop where
  sound : y.Sound m'
  live : y.isMovedFrom = false
  space : y.space = x.space
  shape : y.shape = x.shapeFor s
  base : y.storage.base = x.storage.base ∨ ∀ a, a.base = y.storage.base → m.read? t a = none
  frame : ∀ u a, (u = t → ∀ i, y.shape.Contains i → a ≠ y.span.cell i) →
    m'.read? u a = m.read? u a

theorem adopted_adopt {x : Tensor t n} {m : Memory} (sound : x.Sound m) (s : Shape n) :
    Adopted x s m (x.adopt s m).1 (x.adopt s m).2 := by
  rcases adopt_cases x s m with ⟨shape, resized⟩ | ⟨live, shape, same⟩
  · rw [resized]
    exact {
      sound := ⟨rfl, fun _ => Storage.len_resizeKeeping _ _ _ _,
        Storage.Sound.resizeDiscard _ sound.storage⟩
      live := Storage.released_resizeKeeping _ _ _ _
      space := Storage.space_resizeKeeping _ _ _ _
      shape := shape.symm
      base := Storage.base_resizeDiscard _
      frame := by
        intro u a outside
        apply Storage.read?_resizeDiscard
        intro same within
        obtain ⟨i, inside, here⟩ := (exists_cell_iff (x := (x.resizeDiscard s m).1) rfl).2 within
        exact outside same i inside here }
  · rw [same]
    exact ⟨sound, live, rfl, shape.symm, Or.inl rfl, fun _ _ _ => rfl⟩

structure Accepts (x : Tensor t n) (e : Expr n t) (s : Shape n) : Prop where
  live : e.Live
  join : Shape.IsJoin e.parts s
  home : e.LivesIn x.space
  fits : x.Shapeless ∨ s.Stretches x.shape

/-- Why a tensor refuses an expression. A fault of one kind is reported when there is none of the
kinds before it, and the first operand outside the space is the one that is named. -/
inductive Refuses (x : Tensor t n) (e : Expr n t) : Error → Prop where
  | shape {fault : Error} (ill : e.shape = .error fault) : Refuses x e fault
  | space {s : Shape n} {u : DType} {a : Operand u n} {before after : List ((u : DType) × Leaf n u)}
      (joined : e.shape = .ok s) (split : e.leaves = before ++ ⟨u, .array a⟩ :: after)
      (first : ∀ b ∈ before, b.2.LivesIn x.space) (away : a.span.space ≠ x.space) :
      Refuses x e (.spaceMismatch x.space a.span.space)
  | fit {s : Shape n} (joined : e.shape = .ok s) (home : e.LivesIn x.space)
      (shaped : ¬ x.Shapeless) (misfit : ¬ s.Stretches x.shape) :
      Refuses x e (.shapeMismatch x.shape.toList s.toList)

/-- The assignment of an expression of shape `s`: the tensor has the values of the expression, as
the memory before gives them, and no other cell has changed. -/
structure Assigned [Numerics] (x : Tensor t n) (e : Expr n t) (s : Shape n) (m : Memory)
    (y : Tensor t n) (m' : Memory) : Prop where
  live : y.isMovedFrom = false
  sound : y.Sound m'
  space : y.space = x.space
  shape : y.shape = x.shapeFor s
  value : ∀ i, y.shape.Contains i →
    m'.read? t (y.span.cell i) = some (e.eval (Leaf.valueAt m y.shape i))
  frame : ∀ u a, (u = t → ∀ i, y.shape.Contains i → a ≠ y.span.cell i) →
    m'.read? u a = m.read? u a

section
variable {c : ExecConfig} {x y : Tensor t n} {e : Expr n t} {s : Shape n} {m m' : Memory}

theorem Sound.launch [Numerics] (sound : x.Sound m) (c : ExecConfig) (k : Kernel n t) :
    x.Sound (launch c x.span k m) where
  dense := sound.dense
  filled := sound.filled
  storage := ⟨sound.storage.fits, (size_cells_launch c x.span k m t _).symm ▸ sound.storage.room⟩

theorem Adopted.avoids (adopted : Adopted x s m y m') (live : e.Live) (holds : e.Holds m)
    (avoids : e.Avoids x.storage.base) : e.Avoids y.storage.base := by
  rcases adopted.base with same | fresh
  · exact same ▸ avoids
  · exact holds.avoids live fresh

theorem Adopted.assigned [Numerics] (adopted : Adopted x s m y m') (valid : c.Valid)
    (joined : e.shape = .ok s) (fits : s.Stretches y.shape) (holds : e.Holds m)
    (avoids : e.Avoids x.storage.base) :
    Assigned x e s m y (launch c y.span (e.lower y.shape) m') := by
  obtain ⟨live, join⟩ := Term.shape_eq_ok_iff.1 joined
  have below : ∀ p ∈ e.parts, p.Stretches y.shape := fun p member =>
    (join.upper p member).trans fits
  have avoids := adopted.avoids live holds avoids
  have settled := adopted.sound.holds adopted.live
  exact {
    live := adopted.live
    sound := adopted.sound.launch c _
    space := adopted.space
    shape := adopted.shape
    value := by
      intro i inside
      have elementwise : (e.lower y.shape).Elementwise y.span :=
        Term.elementwise_lower below avoids
      have run := read?_launch (c := c) valid settled.injective settled.backed elementwise inside
      refine run.trans (congrArg some (Term.valueAt_lower_congr below avoids ?_ inside))
      intro u a outside
      apply adopted.frame
      rintro same j _ rfl
      exact outside same rfl
    frame := by
      intro u a outside
      rw [read?_launch_of_ne valid outside]
      exact adopted.frame u a outside }

theorem Accepts.fits_adopt (accepts : x.Accepts e s) (m : Memory) :
    s.Stretches (x.adopt s m).1.shape := by
  rw [shape_adopt, shapeFor]
  split
  · exact Shape.Stretches.refl s
  · exact accepts.fits.resolve_left ‹_›

theorem Accepts.assign_eq [Numerics] (valid : c.Valid) (accepts : x.Accepts e s) (m : Memory) :
    x.assign c e m = (.ok (), (x.adopt s m).1,
      launch c (x.adopt s m).1.span (e.lower (x.adopt s m).1.shape) (x.adopt s m).2) := by
  have joined := Term.shape_eq_ok_iff.2 ⟨accepts.live, accepts.join⟩
  have home : e.LivesIn (x.adopt s m).1.space := by
    rw [space_adopt]
    exact accepts.home
  have done := Span.assign_of_stretches valid (x.adopt s m).1.span (x.adopt s m).2 joined home
    (accepts.fits_adopt m)
  simp only [Tensor.assign, joined, Term.checkSpace_eq_ok_iff.2 accepts.home, done]
  rfl

theorem Accepts.assign [Numerics] (valid : c.Valid) (sound : x.Sound m) (holds : e.Holds m)
    (avoids : e.Avoids x.storage.base) (accepts : x.Accepts e s) :
    ∃ y m', x.assign c e m = (.ok (), y, m') ∧ Assigned x e s m y m' := by
  have joined := Term.shape_eq_ok_iff.2 ⟨accepts.live, accepts.join⟩
  have adopted := adopted_adopt sound s
  exact ⟨_, _, accepts.assign_eq valid m,
    adopted.assigned valid joined (accepts.fits_adopt m) holds avoids⟩

theorem Refuses.assign [Numerics] {fault : Error} (refuses : x.Refuses e fault) :
    x.assign c e m = (.error fault, x, m) := by
  cases refuses with
  | shape ill => simp only [Tensor.assign, ill]
  | space joined split first away =>
    have failed := Term.checkSpace_eq_error_iff.2 ⟨_, _, _, _, split, first, away, rfl⟩
    simp only [Tensor.assign, joined, failed]
  | @fit s joined home shaped misfit =>
    have enters := Term.checkSpace_eq_ok_iff.2 home
    have kept : x.shapeFor s = x.shape := if_neg shaped
    -- Had the tensor been resized, the shape to check against would be that of the expression.
    have same : x.adopt s m = (x, m) := by
      rcases adopt_cases x s m with ⟨shape, _⟩ | ⟨_, _, same⟩
      · exact absurd (shape.symm.trans kept ▸ Shape.Stretches.refl s) misfit
      · exact same
    have failed : x.span.assign c e m = .error (.shapeMismatch x.shape.toList s.toList) := by
      have home : e.checkSpace x.span.space = .ok () := enters
      have misfit : s.broadcastsTo x.span.shape = .error (.shapeMismatch _ _) := if_neg misfit
      simp only [Span.assign, joined, home, misfit, bind, Except.bind]
      rfl
    simp only [Tensor.assign, joined, enters, same, failed]

variable (x e) in
theorem accepts_or_refuses : (∃ s, x.Accepts e s) ∨ ∃ fault, x.Refuses e fault := by
  cases joined : e.shape with
  | error fault => exact Or.inr ⟨fault, .shape joined⟩
  | ok s =>
    cases enters : e.checkSpace x.space with
    | error fault =>
      obtain ⟨_, _, _, _, split, first, away, rfl⟩ := Term.checkSpace_eq_error_iff.1 enters
      exact Or.inr ⟨_, .space joined split first away⟩
    | ok done =>
      have home := Term.checkSpace_eq_ok_iff.1 enters
      obtain ⟨live, join⟩ := Term.shape_eq_ok_iff.1 joined
      by_cases fits : x.Shapeless ∨ s.Stretches x.shape
      · exact Or.inl ⟨s, live, join, home, fits⟩
      · obtain ⟨shaped, misfit⟩ := not_or.1 fits
        exact Or.inr ⟨_, .fit joined home shaped misfit⟩

end

theorem assign_unbounded [Numerics] {c : ExecConfig} (valid : c.Valid) {x : Tensor t n}
    {e : Expr n t} {m : Memory} (sound : x.Sound m) (holds : e.Holds m)
    (avoids : e.Avoids x.storage.base) :
    ((x.assign c e m).1 = .ok () ↔ ∃ s, x.Accepts e s) ∧
      (∀ s, x.Accepts e s →
        ∃ y m', x.assign c e m = (.ok (), y, m') ∧ Assigned x e s m y m') ∧
      (∀ fault, (x.assign c e m).1 = .error fault ↔ x.Refuses e fault) ∧
      ∀ fault, (x.assign c e m).1 = .error fault → (x.assign c e m).2 = (x, m) := by
  have accepted {s : Shape n} (accepts : x.Accepts e s) :=
    accepts.assign valid sound holds avoids
  have refused {fault : Error} (failed : (x.assign c e m).1 = .error fault) :
      x.Refuses e fault := by
    rcases accepts_or_refuses x e with ⟨s, accepts⟩ | ⟨other, refuses⟩
    · obtain ⟨y, m', done, _⟩ := accepted accepts
      rw [done] at failed
      cases failed
    · rw [refuses.assign] at failed
      cases failed
      exact refuses
  refine ⟨⟨fun done => ?_, fun ⟨s, accepts⟩ => ?_⟩, fun s => accepted,
    fun fault => ⟨refused, fun refuses => by rw [refuses.assign]⟩,
    fun fault failed => by rw [(refused failed).assign]⟩
  · rcases accepts_or_refuses x e with accepts | ⟨fault, refuses⟩
    · exact accepts
    · rw [refuses.assign] at done
      cases done
  · obtain ⟨y, m', done, _⟩ := accepted accepts
    rw [done]

end Tensor

def oneThread : ExecConfig where
  numThreads := 1

def newMatrix : Tensor .i32 2 :=
  ⟨.unshaped, .empty .host⟩

theorem backed_reversedColumn : reversedColumn.Backed threeNumbers := by
  intro i inside
  have row : i.get 0 < 3 := inside 0
  have first : i.get 1 < 1 := inside 1
  have offset : reversedColumn.layout.offset i = i.get 0 * -1 + (i.get 1 * 5 + 0) :=
    (Layout.offset_eq_sum _ i).trans rfl
  rw [Memory.read?_isSome_iff, Span.cell, Address.cell_shift, offset]
  change 0 ≤ (2 : Int) + _ ∧ (2 : Int) + _ < 3
  omega

end Strided
