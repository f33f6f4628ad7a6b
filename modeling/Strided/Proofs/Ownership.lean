import Strided.Proofs.Addressing

/-! What an owner has of memory, and what a new length does to it.

A buffer that is handed out is fresh: before the allocation no address finds an element in it. So
a storage that moves to a larger buffer changes nothing that could be read before, and afterwards
every element of a tensor has a cell again.
-/

set_option autoImplicit false

namespace Strided

variable {t : DType} {n : Nat}

namespace Memory

theorem cells_allocate_fresh (m : Memory) (count : Nat) :
    m.cells t (m.allocate t count).1 = #[] := by
  unfold allocate
  split
  · rfl
  · simp [cells]

theorem read?_allocate_fresh (m : Memory) (count : Nat) {a : Address}
    (fresh : a.base = (m.allocate t count).1) : m.read? t a = none := by
  rw [read?, fresh, cells_allocate_fresh]
  split <;> simp

theorem size_cells_allocate (m : Memory) (count : Nat) :
    ((m.allocate t count).2.cells t (m.allocate t count).1).size = count := by
  unfold allocate
  split
  · rename_i none
    exact none.symm
  · simp [cells]

theorem read?_allocate_of_dtype_ne (m : Memory) (count : Nat) (a : Address) {u : DType}
    (other : u ≠ t) : (m.allocate t count).2.read? u a = m.read? u a := by
  unfold allocate
  split
  · rfl
  · unfold read? cells
    cases a.base <;> simp [DType.Family.get_modify_of_ne _ other]

-- Allocation is seen only within the run of cells that it hands out.
theorem read?_allocate_of_not_inRun (m : Memory) (count : Nat) {u : DType} {a : Address}
    (outside : u = t → ¬ Address.InRun (.start (m.allocate t count).1) count a) :
    (m.allocate t count).2.read? u a = m.read? u a := by
  by_cases same : u = t
  · subst same
    by_cases fresh : a.base = (m.allocate u count).1
    · have beyond : ¬ (0 ≤ a.cell ∧ a.cell < count) := by
        rintro ⟨first, last⟩
        exact outside rfl ⟨fresh, first, by simpa [Address.start] using last⟩
      rw [read?_allocate_fresh m count fresh]
      obtain ⟨base, cell⟩ := a
      obtain rfl : base = (m.allocate u count).1 := fresh
      rw [read?_allocate_self, if_neg beyond]
    · exact read?_allocate m count u a fresh
  · exact read?_allocate_of_dtype_ne m count a same

end Memory

namespace Storage

/-- The buffer has as many cells as the capacity says. -/
structure Sound (s : Storage t) (m : Memory) : Prop where
  fits : s.len ≤ s.capacity
  room : s.capacity ≤ (m.cells t s.base).size

theorem resizeDiscard_of_le {s : Storage t} {count : Nat} (m : Memory)
    (enough : count ≤ s.capacity) :
    s.resizeDiscard count m = ({ s with len := count, released := false }, m) :=
  if_pos enough

theorem resizeDiscard_of_lt {s : Storage t} {count : Nat} (m : Memory)
    (more : s.capacity < count) :
    s.resizeDiscard count m =
      (⟨s.space, (m.allocate t count).1, count, count, false⟩, (m.allocate t count).2) :=
  if_neg (Nat.not_le.2 more)

section
variable {s : Storage t} {m : Memory} (count : Nat)

theorem Sound.resizeDiscard (sound : s.Sound m) :
    (s.resizeDiscard count m).1.Sound (s.resizeDiscard count m).2 := by
  rcases Nat.lt_or_ge s.capacity count with more | enough
  · rw [resizeDiscard_of_lt m more]
    exact ⟨Nat.le_refl _, Nat.le_of_eq (m.size_cells_allocate count).symm⟩
  · rw [resizeDiscard_of_le m enough]
    exact ⟨enough, sound.room⟩

theorem base_resizeDiscard :
    (s.resizeDiscard count m).1.base = s.base ∨
      ∀ a, a.base = (s.resizeDiscard count m).1.base → m.read? t a = none := by
  rcases Nat.lt_or_ge s.capacity count with more | enough
  · rw [resizeDiscard_of_lt m more]
    exact Or.inr fun a fresh => m.read?_allocate_fresh count fresh
  · rw [resizeDiscard_of_le m enough]
    exact Or.inl rfl

theorem read?_resizeDiscard {u : DType} {a : Address}
    (outside : u = t → ¬ Address.InRun (s.resizeDiscard count m).1.start count a) :
    (s.resizeDiscard count m).2.read? u a = m.read? u a := by
  rcases Nat.lt_or_ge s.capacity count with more | enough
  · rw [resizeDiscard_of_lt m more] at outside ⊢
    exact m.read?_allocate_of_not_inRun count outside
  · rw [resizeDiscard_of_le m enough]

end

end Storage

namespace Tensor

/-- The tensor is dense, and while it is live its buffer holds as many elements as its shape
asks for. -/
structure Sound (x : Tensor t n) (m : Memory) : Prop where
  dense : x.layout = .contiguous x.shape
  filled : x.isMovedFrom = false → x.storage.len = x.size
  storage : x.storage.Sound m

theorem Sound.holds {x : Tensor t n} {m : Memory} (sound : x.Sound m)
    (live : x.isMovedFrom = false) : x.Holds m where
  live := live
  dense := sound.dense
  room := by
    have filled := sound.filled live
    have fits := sound.storage.fits
    have room := sound.storage.room
    omega

-- The cells of a dense tensor are the run from its first one on.
theorem exists_cell_iff {x : Tensor t n} (dense : x.layout = .contiguous x.shape) {a : Address} :
    (∃ i, x.shape.Contains i ∧ a = x.span.cell i) ↔ Address.InRun x.storage.start x.size a := by
  have cell (i : Index n) : x.span.cell i = ⟨x.storage.base, x.shape.position i⟩ := by
    simp only [Span.cell, span, Storage.start, Address.start, Address.shift]
    rw [dense, Layout.offset_contiguous, Int.zero_add]
  constructor
  · rintro ⟨i, inside, rfl⟩
    have bound : x.shape.position i < x.size := Shape.position_lt_size inside
    rw [cell]
    refine ⟨rfl, ?_, ?_⟩ <;> simp only [Storage.start, Address.start] <;> omega
  · rintro ⟨base, first, last⟩
    simp only [Storage.start, Address.start] at base first last
    have bound : a.cell.toNat < x.shape.size := by
      change a.cell.toNat < x.size
      omega
    refine ⟨x.shape.unravel a.cell.toNat, Shape.contains_unravel bound, ?_⟩
    rw [cell, Shape.position_unravel bound, Int.toNat_of_nonneg first]
    exact congrArg₂ Address.mk base rfl

end Tensor

end Strided
