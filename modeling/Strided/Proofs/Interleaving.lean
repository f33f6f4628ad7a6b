import Mathlib.Data.List.Perm.Basic
import Strided.Numerics.Standard
import Strided.Proofs.Launching

/-! Blocks of a grid that run at the same time.

The `threads` space runs every block of a plan as a task. A task goes through the indices of its
block in order, and at each of them takes two steps: it computes the value of the kernel, and then
it writes that value. Between any two steps of a task, other tasks may take any number of theirs.
Memory is one for all tasks, and a step sees every write that came before it.

What a run leaves in memory does not depend on the order of the steps. At any time the memory is
the one that evaluating some of the indices one after the other leaves, and evaluations at
different indices commute.
-/

set_option autoImplicit false

namespace Strided

variable {t : DType} {n : Nat}

theorem DType.Family.modify_modify {F : DType → Type} (m : Family F) (t : DType) (f g : F t → F t) :
    (m.modify t f).modify t g = m.modify t (g ∘ f) := by
  cases t <;> rfl

theorem modify_setIfInBounds_comm {α : Type} (buffers : Array (Array α)) {j k c d : Nat}
    (apart : j = k → c ≠ d) (v w : α) :
    (buffers.modify j (·.setIfInBounds c v)).modify k (·.setIfInBounds d w) =
      (buffers.modify k (·.setIfInBounds d w)).modify j (·.setIfInBounds c v) := by
  apply Array.ext_getElem?
  intro b
  simp only [Array.getElem?_modify]
  by_cases first : j = b
  · by_cases second : k = b
    · have cells := apart (first.trans second.symm)
      simp only [first, second, ↓reduceIte, Option.map_map]
      refine congrArg (Option.map · _) (funext fun cs => ?_)
      exact Array.setIfInBounds_comm v w cells
    · simp only [first, second, ↓reduceIte]
  · simp only [first, ↓reduceIte]

theorem Memory.write_comm (m : Memory) {a b : Address} (apart : a ≠ b) (v w : t.Elem) :
    (m.write t a v).write t b w = (m.write t b w).write t a v := by
  obtain ⟨base, c⟩ := a
  obtain ⟨base', d⟩ := b
  cases base with
  | null | foreign => cases base' <;> rfl
  | buffer j =>
    cases base' with
    | null | foreign => rfl
    | buffer k =>
      unfold write
      by_cases first : c < 0
      · simp only [first, ↓reduceIte]
      · by_cases second : d < 0
        · simp only [second, ↓reduceIte]
        · have cells : j = k → c.toNat ≠ d.toNat := by
            rintro rfl same
            exact apart (by rw [show c = d by omega])
          simp only [first, second, ↓reduceIte, DType.Family.modify_modify]
          refine congrArg (fun f => Memory.mk (m.buffers.modify t f)) (funext fun buffers => ?_)
          exact modify_setIfInBounds_comm buffers cells v w

/-- The window has no cell of the target, or it is the target itself. -/
def Source.Beside (target : Span t n) {u : DType} : Source n u → Prop
  | window s =>
    (∀ i j, target.shape.Contains i → target.shape.Contains j →
      ((u, s.cell i) : DType × Address) ≠ (t, target.cell j)) ∨
    (⟨u, s⟩ : (u : DType) × Span u n) = ⟨t, target⟩
  | scalar _ => True

/-- Every operand is apart from the target or is the target itself. -/
def Term.Beside (k : Kernel n t) (target : Span t n) : Prop :=
  ∀ a ∈ k.leaves, a.2.Beside target

-- An operand that is the target itself is read at the index that is written.
theorem Term.Beside.elementwise {k : Kernel n t} {target : Span t n} (beside : k.Beside target)
    (injective : target.layout.Injective) : k.Elementwise target := by
  intro i j hi hj read
  obtain ⟨⟨u, a⟩, member, cell⟩ := List.mem_flatMap.1 read
  obtain ⟨address, found, same⟩ := List.mem_map.1 cell
  cases a with
  | scalar v => cases found
  | window s =>
    obtain rfl := List.mem_singleton.1 found
    rcases beside _ member with apart | itself
    · exact absurd same (apart i j hi hj)
    · cases itself
      obtain ⟨-, same⟩ := Prod.mk.inj same
      exact injective i j hi hj (Span.cell_inj.1 same)

theorem Span.broadcastTo_self (s : Span t n) : s.broadcastTo s.shape = s := by
  obtain ⟨space, start, shape, strides⟩ := s
  have kept : (Layout.broadcastTo ⟨shape, strides⟩ shape).strides = strides := by
    refine congrArg Strides.mk (Vector.ext fun d bound => ?_)
    simp [Strides.stride, Vector.get]
  exact congrArg (fun strides => (⟨space, start, shape, strides⟩ : Span t n)) kept

-- A window that is combined with an expression apart from it is read where it is written.
theorem Term.Beside.update {target : Span t n} {e : Expr n t}
    (beside : (e.lower target.shape).Beside target) (op : BinaryOp) :
    ((Term.binary op (.leaf (.array (.window target))) e).lower target.shape).Beside target := by
  intro a member
  rcases List.mem_cons.1 member with rfl | member
  · exact Or.inr (congrArg (Sigma.mk t) target.broadcastTo_self)
  · exact beside a member

section
variable {k : Kernel n t} {target : Span t n}

variable [Numerics]

theorem writeAt_comm (injective : target.layout.Injective) (elementwise : k.Elementwise target)
    {i j : Index n} (hi : target.shape.Contains i) (hj : target.shape.Contains j) (m : Memory) :
    writeAt k target (writeAt k target m i) j = writeAt k target (writeAt k target m j) i := by
  by_cases same : i = j
  · rw [same]
  · have apart : target.cell i ≠ target.cell j := fun equal =>
      same (injective i j hi hj (Span.cell_inj.1 equal))
    have second : k.valueAt (writeAt k target m i) j = k.valueAt m j :=
      valueAt_writeAt elementwise hi hj (Ne.symm same)
    have first : k.valueAt (writeAt k target m j) i = k.valueAt m i :=
      valueAt_writeAt elementwise hj hi same
    calc
      writeAt k target (writeAt k target m i) j
        = target.write (target.write m i (k.valueAt m i)) j (k.valueAt m j) := by
          rw [writeAt, second, writeAt]
      _ = target.write (target.write m j (k.valueAt m j)) i (k.valueAt m i) :=
          Memory.write_comm m apart _ _
      _ = writeAt k target (writeAt k target m j) i := by
          rw [writeAt, first, writeAt]

theorem foldl_writeAt_perm (injective : target.layout.Injective)
    (elementwise : k.Elementwise target) {visited others : List (Index n)}
    (same : visited.Perm others) (inside : ∀ i ∈ visited, target.shape.Contains i) (m : Memory) :
    visited.foldl (writeAt k target) m = others.foldl (writeAt k target) m := by
  apply same.foldl_eq'
  intro i hi j hj m
  exact writeAt_comm injective elementwise (inside i hi) (inside j hj) m

theorem valueAt_foldl_writeAt (elementwise : k.Elementwise target) {visited : List (Index n)}
    (inside : ∀ i ∈ visited, target.shape.Contains i) {j : Index n}
    (hj : target.shape.Contains j) (fresh : j ∉ visited) (m : Memory) :
    k.valueAt (visited.foldl (writeAt k target) m) j = k.valueAt m j := by
  induction visited generalizing m with
  | nil => rfl
  | cons i rest ih =>
    obtain ⟨hi, inside⟩ := List.forall_mem_cons.1 inside
    have other : j ≠ i := List.ne_of_not_mem_cons fresh
    rw [List.foldl_cons, ih inside (List.not_mem_of_not_mem_cons fresh),
      valueAt_writeAt elementwise hi hj other]

end

/-- What is left to do for a block: a value that was computed and is not written yet, with the
index for which it is meant, and the indices still to come. -/
structure BlockTask (t : DType) (n : Nat) where
  pending : Option (Index n × t.Elem)
  todo : List (Index n)

namespace BlockTask

def start (visited : List (Index n)) : BlockTask t n :=
  ⟨none, visited⟩

def outstanding (w : BlockTask t n) : List (Index n) :=
  w.pending.toList.map Prod.fst ++ w.todo

def work (w : BlockTask t n) : Nat :=
  w.pending.toList.length + 2 * w.todo.length

inductive Step [Numerics] (k : Kernel n t) (target : Span t n) :
    Memory → BlockTask t n → Memory → BlockTask t n → Prop where
  | compute {m : Memory} {i : Index n} {rest : List (Index n)} :
    Step k target m ⟨none, i :: rest⟩ m ⟨some (i, k.valueAt m i), rest⟩
  | write {m : Memory} {i : Index n} {v : t.Elem} {rest : List (Index n)} :
    Step k target m ⟨some (i, v), rest⟩ (target.write m i v) ⟨none, rest⟩

theorem work_eq_zero_iff {w : BlockTask t n} : w.work = 0 ↔ w.outstanding = [] := by
  simp [work, outstanding]

variable {k : Kernel n t} {target : Span t n} {m m' : Memory} {w w' : BlockTask t n}

theorem Step.work [Numerics] (step : Step k target m w m' w') : w.work = w'.work + 1 := by
  cases step <;> simp [BlockTask.work] <;> omega

variable (k target m) in
theorem exists_step [Numerics] (unfinished : w.work ≠ 0) : ∃ m' w', Step k target m w m' w' := by
  obtain ⟨pending, todo⟩ := w
  cases pending with
  | some p => exact ⟨_, _, .write⟩
  | none =>
    cases todo with
    | nil => exact absurd rfl unfinished
    | cons i rest => exact ⟨_, _, .compute⟩

end BlockTask

/-- A grid in the middle of a run: the memory, and what is left to do for each block. -/
structure GridState (t : DType) (n : Nat) where
  memory : Memory
  tasks : List (BlockTask t n)

namespace GridState

/-- Every block is about to begin. -/
def start (m : Memory) (blocks : List (List (Index n))) : GridState t n :=
  ⟨m, blocks.map BlockTask.start⟩

def outstanding (g : GridState t n) : List (Index n) :=
  g.tasks.flatMap BlockTask.outstanding

def work (g : GridState t n) : Nat :=
  (g.tasks.map BlockTask.work).sum

def Finished (g : GridState t n) : Prop :=
  ∀ w ∈ g.tasks, w.outstanding = []

inductive Step [Numerics] (k : Kernel n t) (target : Span t n) :
    GridState t n → GridState t n → Prop where
  | task {m m' : Memory} {w w' : BlockTask t n} (before after : List (BlockTask t n))
    (step : BlockTask.Step k target m w m' w') :
    Step k target ⟨m, before ++ w :: after⟩ ⟨m', before ++ w' :: after⟩

/-- Runs of a number of steps, each by any task that is not done. -/
inductive Runs [Numerics] (k : Kernel n t) (target : Span t n) (g : GridState t n) :
    Nat → GridState t n → Prop where
  | start : Runs k target g 0 g
  | step {count : Nat} {g' g'' : GridState t n} (before : Runs k target g count g')
    (last : Step k target g' g'') : Runs k target g (count + 1) g''

theorem finished_iff_outstanding {g : GridState t n} : g.Finished ↔ g.outstanding = [] :=
  List.flatMap_eq_nil_iff.symm

theorem finished_iff_work {g : GridState t n} : g.Finished ↔ g.work = 0 := by
  simp [Finished, work, List.sum_eq_zero_iff_forall_eq_nat, BlockTask.work_eq_zero_iff]

theorem outstanding_start (m : Memory) (blocks : List (List (Index n))) :
    (start m blocks : GridState t n).outstanding = blocks.flatten := by
  simp only [outstanding, start, List.flatMap_map, List.flatten_eq_flatMap]
  rfl

theorem work_start (m : Memory) (blocks : List (List (Index n))) :
    (start m blocks : GridState t n).work = 2 * blocks.flatten.length := by
  induction blocks with
  | nil => rfl
  | cons block blocks ih =>
    simp only [work, start, List.map_cons, List.sum_cons, List.flatten_cons,
      List.length_append] at ih ⊢
    rw [ih, BlockTask.start, BlockTask.work]
    simp only [Option.toList_none, List.length_nil]
    omega

section
variable {k : Kernel n t} {target : Span t n} {g g' : GridState t n}

variable [Numerics]

theorem Step.work (step : Step k target g g') : g.work = g'.work + 1 := by
  cases step with
  | task before after step =>
    have one := step.work
    simp only [GridState.work, List.map_append, List.map_cons, List.sum_append, List.sum_cons]
    omega

variable (k target) in
theorem exists_step (unfinished : ¬ g.Finished) : ∃ g', Step k target g g' := by
  obtain ⟨m, tasks⟩ := g
  simp only [Finished, not_forall] at unfinished
  obtain ⟨w, member, left⟩ := unfinished
  obtain ⟨before, after, rfl⟩ := List.append_of_mem member
  obtain ⟨m', w', step⟩ := w.exists_step k target m (mt BlockTask.work_eq_zero_iff.1 left)
  exact ⟨_, .task before after step⟩

theorem Runs.work {count : Nat} (run : Runs k target g count g') :
    count + g'.work = g.work := by
  induction run with
  | start => exact Nat.zero_add _
  | step before last ih =>
    have one := last.work
    omega

end

/-- How a grid stands after some indices have been written, in the order in which they are
listed. The grid has `all` to write and began with the memory `m`. -/
structure Midway [Numerics] (k : Kernel n t) (target : Span t n) (m : Memory)
    (all written : List (Index n)) (g : GridState t n) : Prop where
  accounted : (written ++ g.outstanding).Perm all
  memory : g.memory = written.foldl (writeAt k target) m
  computed : ∀ w ∈ g.tasks, ∀ p ∈ w.pending, p.2 = k.valueAt m p.1

section
variable {k : Kernel n t} {target : Span t n} {m : Memory} {all written : List (Index n)}
  {g g' : GridState t n} (elementwise : k.Elementwise target) (distinct : all.Nodup)
  (inside : ∀ i ∈ all, target.shape.Contains i)

section
include elementwise distinct inside

-- A value is the same whenever it is computed, as long as its own element is not written.
theorem Midway.valueAt [Numerics] (midway : Midway k target m all written g) {i : Index n}
    (left : i ∈ g.outstanding) : k.valueAt g.memory i = k.valueAt m i := by
  have parts := midway.accounted.nodup_iff.2 distinct
  have fresh : i ∉ written := fun earlier =>
    (List.nodup_append'.1 parts).2.2 earlier left
  have covered {j : Index n} (member : j ∈ written ++ g.outstanding) : target.shape.Contains j :=
    inside j (midway.accounted.mem_iff.1 member)
  rw [midway.memory]
  exact valueAt_foldl_writeAt elementwise
    (fun j earlier => covered (List.mem_append_left _ earlier))
    (covered (List.mem_append_right _ left)) fresh m

theorem Midway.step [Numerics] (midway : Midway k target m all written g)
    (step : Step k target g g') :
    ∃ written', Midway k target m all written' g' := by
  cases step with
  | @task m₁ _ w w' before after step =>
    have others {v : BlockTask t n} (member : v ∈ before ++ after) :
        ∀ p ∈ v.pending, p.2 = k.valueAt m p.1 := by
      apply midway.computed
      rcases List.mem_append.1 member with member | member
      · exact List.mem_append_left _ member
      · exact List.mem_append_right _ (List.mem_cons_of_mem _ member)
    have changed {v : BlockTask t n} (own : ∀ p ∈ v.pending, p.2 = k.valueAt m p.1) :
        ∀ x ∈ before ++ v :: after, ∀ p ∈ x.pending, p.2 = k.valueAt m p.1 := by
      intro x member
      rcases List.mem_cons.1 (List.perm_middle.mem_iff.1 member) with rfl | member
      · exact own
      · exact others member
    cases step with
    | @compute i rest =>
      refine ⟨written, ?_, midway.memory, ?_⟩
      · simpa [outstanding, BlockTask.outstanding] using midway.accounted
      · apply changed
        rintro p ⟨⟩
        apply midway.valueAt elementwise distinct inside
        simp [outstanding, BlockTask.outstanding]
    | @write i v rest =>
      have left : i ∈ outstanding ⟨m₁, before ++ ⟨some (i, v), rest⟩ :: after⟩ := by
        simp [outstanding, BlockTask.outstanding]
      have value : v = k.valueAt m i :=
        midway.computed _ (List.mem_append_right _ List.mem_cons_self) _ rfl
      have now := midway.valueAt elementwise distinct inside left
      refine ⟨written ++ [i], ?_, ?_, ?_⟩
      · refine List.Perm.trans ?_ midway.accounted
        simp only [outstanding, BlockTask.outstanding, List.flatMap_append, List.flatMap_cons,
          Option.toList_none, Option.toList_some, List.map_nil, List.map_cons, List.nil_append,
          List.append_assoc, List.cons_append]
        exact (List.perm_middle.symm).append_left written
      · rw [List.foldl_append, List.foldl_cons, List.foldl_nil, ← midway.memory, writeAt, now,
          value]
      · apply changed
        rintro p ⟨⟩

end

theorem midway_start [Numerics] {blocks : List (List (Index n))} (dealt : blocks.flatten.Perm all) :
    Midway k target m all [] (start m blocks) where
  accounted := by
    rw [List.nil_append, outstanding_start]
    exact dealt
  memory := rfl
  computed := by
    intro w member p pending
    obtain ⟨block, -, rfl⟩ := List.mem_map.1 member
    cases pending

include elementwise distinct inside in
theorem Runs.midway [Numerics] {blocks : List (List (Index n))} (dealt : blocks.flatten.Perm all)
    {count : Nat} (run : Runs k target (GridState.start m blocks) count g) :
    ∃ written, Midway k target m all written g := by
  induction run with
  | start => exact ⟨[], midway_start dealt⟩
  | step before last ih =>
    obtain ⟨written, midway⟩ := ih
    exact midway.step elementwise distinct inside last

include elementwise distinct inside in
theorem Runs.memory_of_finished [Numerics] (injective : target.layout.Injective)
    {blocks : List (List (Index n))} (dealt : blocks.flatten.Perm all) {count : Nat}
    (run : Runs k target (GridState.start m blocks) count g) (finished : g.Finished) :
    g.memory = all.foldl (writeAt k target) m := by
  obtain ⟨written, midway⟩ := run.midway elementwise distinct inside dealt
  have complete := midway.accounted
  rw [finished_iff_outstanding.1 finished, List.append_nil] at complete
  rw [midway.memory]
  exact foldl_writeAt_perm injective elementwise complete
    (fun i member => inside i (complete.mem_iff.1 member)) m

end

-- The blocks of a plan together have the indices of the shape, each once.
theorem exists_cover_perm_indices {c : ExecConfig} (valid : c.Valid) (s : Shape n) :
    ∃ p blocks, LaunchPlan.ofShape? s c = some p ∧ p.cover? = some blocks ∧
      blocks.length = p.blockCount ∧ blocks.flatten.Perm s.indices := by
  obtain ⟨p, found, planned⟩ := LaunchPlan.exists_planned valid s
  refine ⟨p, _, found, LaunchPlan.cover?_eq p, by simp, List.perm_iff_count.2 fun i => ?_⟩
  rw [← List.flatMap_def, planned.count_cover valid, (Shape.nodup_indices s).count]
  simp only [Shape.mem_indices]

/-- However the steps of the blocks follow one another, a run takes two steps for every element, it
can go on until it has taken them all, and then memory is what the host leaves. -/
theorem memory_of_runs [Numerics] {c : ExecConfig} (valid : c.validate = .ok ()) {target : Span t n}
    (injective : target.layout.Injective) {k : Kernel n t} (beside : k.Beside target)
    (m : Memory) :
    ∃ p blocks, LaunchPlan.ofShape? target.shape c = some p ∧ p.cover? = some blocks ∧
      blocks.length = p.blockCount ∧
      ∀ count g, Runs k target (GridState.start m blocks) count g →
        count + g.work = 2 * target.size ∧
        (¬ g.Finished → ∃ g', Step k target g g') ∧
        (g.Finished → count = 2 * target.size ∧
          g.memory = launch c { target with space := .host } k m) := by
  have valid := ExecConfig.validate_eq_ok_iff.1 valid
  obtain ⟨p, blocks, found, covered, length, dealt⟩ := exists_cover_perm_indices valid target.shape
  refine ⟨p, blocks, found, covered, length, ?_⟩
  intro count g run
  have steps : count + g.work = 2 * target.size := by
    rw [run.work, work_start, dealt.length_eq, Shape.indices_eq_map_unravel, List.length_map,
      List.length_range]
    rfl
  refine ⟨steps, exists_step k target, fun finished => ⟨?_, ?_⟩⟩
  · rw [finished_iff_work.1 finished] at steps
    exact steps
  · change g.memory = target.shape.indices.foldl (writeAt k target) m
    exact run.memory_of_finished (beside.elementwise injective) (Shape.nodup_indices _)
      (fun i => Shape.mem_indices.1) injective dealt finished

def oneLane : ExecConfig where
  block1d := 1
  numThreads := 2

-- Two of the three numbers, the second one first.
def backwardPair : Span .i32 1 :=
  ⟨.threads, ⟨.buffer 0, 1⟩, ⟨⟨#v[2]⟩, ⟨#v[-1]⟩⟩⟩

def five : Expr 1 .i32 :=
  .leaf (.scalar (5 : Int32))

def raisedByFive : Kernel 1 .i32 :=
  (Term.binary .add (.leaf (.array (.window backwardPair))) five).lower backwardPair.shape

theorem injective_backwardPair : backwardPair.layout.Injective := by
  intro i j _ _ same
  have offset (k : Index 1) : backwardPair.layout.offset k = k.get 0 * -1 + 0 :=
    (Layout.offset_eq_sum _ k).trans rfl
  rw [offset, offset] at same
  ext d bound
  obtain rfl : d = 0 := by omega
  change i.get 0 = j.get 0
  omega

/-- The second block computes its value first and writes it last. -/
theorem memory_of_runs_backwardPair :
    oneLane.validate = .ok () ∧ backwardPair.layout.Injective ∧
      raisedByFive.Beside backwardPair ∧
      ∃ blocks g, Runs raisedByFive backwardPair (GridState.start threeNumbers blocks) 4 g ∧
        g.Finished ∧ g.memory = launch oneLane { backwardPair with space := .host } raisedByFive
          threeNumbers ∧
        g.memory.read .i32 ⟨.buffer 0, 0⟩ = (15 : Int32) := by
  have valid : oneLane.validate = .ok () := rfl
  have apart : (five.lower backwardPair.shape).Beside backwardPair := by
    intro a member
    obtain rfl := List.mem_singleton.1 member
    trivial
  have beside : raisedByFive.Beside backwardPair := apart.update .add
  obtain ⟨p, blocks, found, covered, -, runs⟩ :=
    memory_of_runs valid injective_backwardPair beside threeNumbers
  obtain rfl : blocks = [[#v[0]], [#v[1]]] := by
    cases found
    exact (Option.some.inj covered).symm
  have run : Runs raisedByFive backwardPair (GridState.start threeNumbers [[#v[0]], [#v[1]]]) 4
      ⟨_, [⟨none, []⟩, ⟨none, []⟩]⟩ :=
    .step (.step (.step (.step .start
      (.task [⟨none, [#v[0]]⟩] [] .compute)) (.task [] [_] .compute)) (.task [] [_] .write))
      (.task [⟨none, []⟩] [] .write)
  have finished (m : Memory) :
      GridState.Finished (⟨m, [⟨none, []⟩, ⟨none, []⟩]⟩ : GridState .i32 1) := by
    simp [Finished, BlockTask.outstanding]
  obtain ⟨-, -, settled⟩ := runs _ _ run
  exact ⟨valid, injective_backwardPair, beside, _, _, run, finished _,
    (settled (finished _)).2, rfl⟩

end GridState

end Strided
