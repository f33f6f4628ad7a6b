import Strided.Launch
import Strided.Proofs.Coverage
import Strided.Proofs.Lowering

/-! What a launch writes, and what it leaves as it was.

A space visits every index of a window once. If the elements of the window have cells of their
own, and the kernel reads no element of the window except at the index of that element, then the
order of the visits does not matter: each element gets the value that the kernel has before the
launch.
-/

set_option autoImplicit false

namespace Strided

variable {t : DType} {n : Nat}

section
variable {c : ExecConfig} (valid : c.Valid) (space : Space) (s : Shape n)
include valid

theorem count_visits (i : Index n) :
    (visits c space s).count i = if s.Contains i then 1 else 0 := by
  cases space with
  | threads =>
    obtain ⟨p, found, planned⟩ := LaunchPlan.exists_planned valid s
    have covered : visits c .threads s =
        (List.range p.blockCount).flatMap fun k => p.blockIndices (p.blockAt k) := by
      simp only [visits, found, Option.bind_some, LaunchPlan.cover?_eq, Option.getD_some,
        List.flatMap_def]
    rw [covered, planned.count_cover valid]
  | host | cuda =>
    change s.indices.count i = _
    rw [(Shape.nodup_indices s).count]
    simp only [Shape.mem_indices]

theorem mem_visits {i : Index n} : i ∈ visits c space s ↔ s.Contains i := by
  rw [← List.count_pos_iff, count_visits valid]
  split <;> simp [*]

theorem nodup_visits : (visits c space s).Nodup := by
  rw [List.nodup_iff_count_le_one]
  intro i
  rw [count_visits valid]
  split <;> omega

end

/-- At every index, the kernel reads no element of the window but the one at that index. -/
def Term.Elementwise (k : Kernel n t) (target : Span t n) : Prop :=
  ∀ i j, target.shape.Contains i → target.shape.Contains j →
    (t, target.cell j) ∈ k.reads i → i = j

theorem Term.elementwise_scalar (v : t.Elem) (target : Span t n) :
    (.leaf (.scalar v) : Kernel n t).Elementwise target := by
  intro i j _ _ read
  cases read

theorem Memory.size_cells_write (m : Memory) (a : Address) (v : t.Elem) (u : DType) (base : Base) :
    ((m.write t a v).cells u base).size = (m.cells u base).size := by
  by_cases same : u = t
  · subst same
    by_cases here : base = a.base
    · subst here
      rw [cells_write_self]
      split <;> simp
    · rw [cells_write_of_ne m a v here]
  · rw [cells_write_of_dtype_ne m a v same]

section
variable {k : Kernel n t} {target : Span t n} {m : Memory} {i j : Index n}

variable [Numerics]

-- What one visit does: it writes one element, and the visits to come do not notice.
theorem read?_writeAt (injective : target.layout.Injective) (backed : target.Backed m)
    (hi : target.shape.Contains i) (hj : target.shape.Contains j) :
    (writeAt k target m i).read? t (target.cell j) =
      if j = i then some (k.valueAt m i) else m.read? t (target.cell j) := by
  rw [writeAt, Span.write, Memory.read?_write]
  by_cases same : j = i
  · subst same
    rw [if_pos rfl, if_pos rfl, backed.read?_cell hj]
    rfl
  · have apart : target.cell j ≠ target.cell i := fun equal =>
      same (injective j i hj hi (Span.cell_inj.1 equal))
    rw [if_neg apart, if_neg same]

theorem read?_writeAt_of_ne {u : DType} {a : Address} (outside : u = t → a ≠ target.cell i) :
    (writeAt k target m i).read? u a = m.read? u a := by
  by_cases same : u = t
  · subst same
    rw [writeAt, Span.write, Memory.read?_write, if_neg (outside rfl)]
  · exact Memory.read?_write_of_dtype_ne m _ _ _ same

theorem backed_writeAt (backed : target.Backed m) : target.Backed (writeAt k target m i) := by
  intro j inside
  have found := backed j inside
  rw [Memory.read?_isSome_iff] at found ⊢
  rw [writeAt, Span.write, Memory.size_cells_write]
  exact found

theorem valueAt_writeAt (elementwise : k.Elementwise target) (hi : target.shape.Contains i)
    (hj : target.shape.Contains j) (other : j ≠ i) :
    k.valueAt (writeAt k target m i) j = k.valueAt m j := by
  apply Term.valueAt_congr
  rintro ⟨u, a⟩ read
  apply read?_writeAt_of_ne
  rintro rfl equal
  exact other (elementwise j i hj hi (equal ▸ read))

variable {visited : List (Index n)}

theorem read?_foldl_writeAt (injective : target.layout.Injective) (backed : target.Backed m)
    (elementwise : k.Elementwise target) (distinct : visited.Nodup)
    (inside : ∀ i ∈ visited, target.shape.Contains i) (hj : target.shape.Contains j) :
    (visited.foldl (writeAt k target) m).read? t (target.cell j) =
      if j ∈ visited then some (k.valueAt m j) else m.read? t (target.cell j) := by
  induction visited generalizing m with
  | nil => rfl
  | cons i rest ih =>
    obtain ⟨fresh, distinct⟩ := List.nodup_cons.1 distinct
    obtain ⟨hi, inside⟩ := List.forall_mem_cons.1 inside
    rw [List.foldl_cons, ih (backed_writeAt backed) distinct inside,
      read?_writeAt injective backed hi hj]
    by_cases later : j ∈ rest
    · have other : j ≠ i := fun same => fresh (same ▸ later)
      rw [if_pos later, if_pos (List.mem_cons_of_mem i later),
        valueAt_writeAt elementwise hi hj other]
    · by_cases same : j = i
      · subst same
        rw [if_neg later, if_pos rfl, if_pos List.mem_cons_self]
      · have never : j ∉ i :: rest := List.not_mem_cons_of_ne_of_not_mem same later
        rw [if_neg later, if_neg same, if_neg never]

theorem read?_foldl_writeAt_of_ne {u : DType} {a : Address}
    (outside : u = t → ∀ i ∈ visited, a ≠ target.cell i) :
    (visited.foldl (writeAt k target) m).read? u a = m.read? u a := by
  induction visited generalizing m with
  | nil => rfl
  | cons i rest ih =>
    rw [List.foldl_cons, ih fun same j later => outside same j (List.mem_cons_of_mem i later)]
    exact read?_writeAt_of_ne fun same => outside same i List.mem_cons_self

theorem size_cells_foldl_writeAt (u : DType) (base : Base) :
    ((visited.foldl (writeAt k target) m).cells u base).size = (m.cells u base).size := by
  induction visited generalizing m with
  | nil => rfl
  | cons i rest ih => rw [List.foldl_cons, ih, writeAt, Span.write, Memory.size_cells_write]

end

section
variable {c : ExecConfig} (valid : c.Valid) {k : Kernel n t} {target : Span t n} {m : Memory}
include valid

variable [Numerics]

theorem read?_launch (injective : target.layout.Injective) (backed : target.Backed m)
    (elementwise : k.Elementwise target) {i : Index n} (inside : target.shape.Contains i) :
    (launch c target k m).read? t (target.cell i) = some (k.valueAt m i) := by
  have visit {j : Index n} := mem_visits valid target.space target.shape (i := j)
  have run := read?_foldl_writeAt injective backed elementwise
    (nodup_visits valid target.space target.shape) (fun j => visit.1) inside
  rw [launch, run, if_pos (visit.2 inside)]

theorem launch_of_size_eq_zero (empty : target.size = 0) : launch c target k m = m := by
  have none : visits c target.space target.shape = [] := by
    apply List.eq_nil_iff_forall_not_mem.2
    intro i visited
    have inside := (mem_visits valid target.space target.shape).1 visited
    have bound : target.shape.position i < target.size := Shape.position_lt_size inside
    omega
  rw [launch, none, List.foldl_nil]

-- A launch over nothing need not be told apart from the others.
theorem launch_or_empty :
    (if target.size = 0 then m else launch c target k m) = launch c target k m := by
  split
  · rename_i empty
    rw [launch_of_size_eq_zero valid empty]
  · rfl

theorem read?_launch_of_ne {u : DType} {a : Address}
    (outside : u = t → ∀ i, target.shape.Contains i → a ≠ target.cell i) :
    (launch c target k m).read? u a = m.read? u a :=
  read?_foldl_writeAt_of_ne fun same i visited =>
    outside same i ((mem_visits valid target.space target.shape).1 visited)

end

theorem size_cells_launch [Numerics] (c : ExecConfig) (target : Span t n) (k : Kernel n t)
    (m : Memory) (u : DType) (base : Base) :
    ((launch c target k m).cells u base).size = (m.cells u base).size :=
  size_cells_foldl_writeAt u base

end Strided
