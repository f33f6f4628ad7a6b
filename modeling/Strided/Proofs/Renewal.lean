import Strided.Proofs.Interleaving
import Strided.Proofs.Upkeep

/-! What changes in memory when a tensor is made or renewed.

An operation on a tensor writes to one buffer, its own or a fresh one. Whatever could be read in
any other buffer is found there afterwards.
-/

set_option autoImplicit false

namespace Strided

variable {t : DType} {n : Nat}

namespace Memory

/-- What could be read is still there, except in one buffer of one element type. -/
def ExtendsOff (owner : DType × Base) (m m' : Memory) : Prop :=
  ∀ u a v, (u, a.base) ≠ owner → m.read? u a = some v → m'.read? u a = some v

/-- What could be read is still there. -/
def Extends (m m' : Memory) : Prop :=
  ∀ u a v, m.read? u a = some v → m'.read? u a = some v

/-- Nothing can be read in the buffer. -/
def Fresh (m : Memory) (t : DType) (base : Base) : Prop :=
  ∀ a, a.base = base → m.read? t a = none

section
variable {owner : DType × Base} {m m' m'' : Memory}

theorem Extends.refl (m : Memory) : m.Extends m :=
  fun _ _ _ found => found

theorem Extends.trans (first : m.Extends m') (second : m'.Extends m'') : m.Extends m'' :=
  fun u a v found => second u a v (first u a v found)

theorem Extends.grows (all : m.Extends m') : m.Grows m' := by
  intro u base
  rcases Nat.eq_zero_or_pos (m.cells u base).size with none | positive
  · rw [none]
    exact Nat.zero_le _
  · -- The last cell of the buffer is still there.
    have last : (m.read? u ⟨base, ((m.cells u base).size - 1 : Nat)⟩).isSome :=
      read?_isSome_iff.2 (by dsimp only; omega)
    obtain ⟨v, found⟩ := Option.isSome_iff_exists.1 last
    have kept := all u _ v found
    have bound := (read?_isSome_iff.1 (Option.isSome_iff_exists.2 ⟨v, kept⟩)).2
    dsimp only at bound
    omega

theorem Extends.off (all : m.Extends m') (owner : DType × Base) : m.ExtendsOff owner m' :=
  fun u a v _ found => all u a v found

theorem ExtendsOff.trans (first : m.ExtendsOff owner m') (second : m'.ExtendsOff owner m'') :
    m.ExtendsOff owner m'' :=
  fun u a v other found => second u a v other (first u a v other found)

theorem ExtendsOff.all (rest : m.ExtendsOff owner m') (fresh : m.Fresh owner.1 owner.2) :
    m.Extends m' := by
  intro u a v found
  refine rest u a v ?_ found
  rintro rfl
  rw [fresh a rfl] at found
  cases found

theorem Fresh.of_extends {base : Base} (fresh : m'.Fresh t base) (all : m.Extends m') :
    m.Fresh t base := by
  intro a here
  cases found : m.read? t a with
  | none => rfl
  | some v =>
    have later := all t a v found
    rw [fresh a here] at later
    cases later

theorem fresh_null (m : Memory) (t : DType) : m.Fresh t .null := by
  intro a here
  rw [read?, here]
  split <;> simp [cells]

theorem fresh_allocate (m : Memory) (t : DType) (count : Nat) :
    m.Fresh t (m.allocate t count).1 :=
  fun _ here => m.read?_allocate_fresh count here

theorem extends_allocate (m : Memory) (t : DType) (count : Nat) :
    m.Extends (m.allocate t count).2 := by
  intro u a v found
  rw [m.read?_allocate_of_not_inRun count, found]
  rintro rfl run
  rw [m.fresh_allocate u count a run.1] at found
  cases found

theorem extendsOff_write (m : Memory) (a : Address) (v : t.Elem) :
    m.ExtendsOff (t, a.base) (m.write t a v) := by
  intro u b w other found
  by_cases same : u = t
  · subst same
    rw [read?_write, if_neg, found]
    rintro rfl
    exact other rfl
  · rw [read?_write_of_dtype_ne m a b v same, found]

theorem extendsOff_writeRun (m : Memory) (a : Address) (vs : List t.Elem) :
    m.ExtendsOff (t, a.base) (m.writeRun t a vs) := by
  induction vs generalizing m a with
  | nil => exact (Extends.refl m).off _
  | cons v vs ih => exact (m.extendsOff_write a v).trans (ih _ (a.shift 1))

theorem extendsOff_copy (m : Memory) (t : DType) (source target : Address) (count : Nat) :
    m.ExtendsOff (t, target.base) (m.copy t source target count) :=
  m.extendsOff_writeRun target _

theorem extendsOff_launch [Numerics] (m : Memory) (c : ExecConfig) (target : Span t n)
    (k : Kernel n t) :
    m.ExtendsOff (t, target.start.base) (launch c target k m) := by
  intro u a v other found
  rw [launch, read?_foldl_writeAt_of_ne, found]
  rintro rfl i _ rfl
  exact other rfl

end

theorem read?_writeRun_shift {m : Memory} {target : Address} {vs : List t.Elem} {k : Nat}
    (below : k < vs.length) (room : (m.read? t (target.shift k)).isSome) :
    (m.writeRun t target vs).read? t (target.shift k) = some vs[k] := by
  have run : Address.InRun target vs.length (target.shift k) := by
    refine ⟨rfl, ?_, ?_⟩ <;> simp only [Address.cell_shift] <;> omega
  have distance : ((target.shift k).cell - target.cell).toNat = k := by
    rw [Address.cell_shift]
    omega
  obtain ⟨w, here⟩ := Option.isSome_iff_exists.1 room
  rw [read?_writeRun, if_pos run, here, distance, Option.map_some,
    List.getD_eq_getElem?_getD, List.getElem?_eq_getElem below, Option.getD_some]

theorem read?_copy_shift {m : Memory} {source target : Address} {count k : Nat} {v : t.Elem}
    (below : k < count) (room : (m.read? t (target.shift k)).isSome)
    (found : m.read? t (source.shift k) = some v) :
    (m.copy t source target count).read? t (target.shift k) = some v := by
  have bound : k < (m.readRun t source count).length := by rwa [length_readRun]
  rw [copy, read?_writeRun_shift bound room, getElem_readRun, read, found, Option.getD_some]

end Memory

theorem Span.Backed.mono {s : Span t n} {m m' : Memory} (backed : s.Backed m)
    (all : m.Extends m') : s.Backed m' := by
  intro i inside
  obtain ⟨v, found⟩ := Option.isSome_iff_exists.1 (backed i inside)
  rw [all _ _ v found]
  rfl

namespace Storage

variable {s : Storage t} {m : Memory}

/-- A buffer that is not null has a cell. -/
def Owned (s : Storage t) : Prop :=
  s.base = .null ∨ 0 < s.capacity

/-- A storage that an operation makes of one with a given buffer, in the memory that it leaves. The
buffer is that one or a fresh one. -/
structure Renewed (old : Base) (m : Memory) (r : Storage t × Memory) : Prop where
  owned : r.1.Owned
  base : r.1.base = old ∨ m.Fresh t r.1.base
  rest : m.ExtendsOff (t, r.1.base) r.2

theorem resizeKeeping_of_lt {count : Nat} (more : s.capacity < count) (kept : Nat) (m : Memory) :
    s.resizeKeeping kept count m =
      (⟨s.space, (m.allocate t count).1, count, count, false⟩,
        (m.allocate t count).2.copy t s.start (.start (m.allocate t count).1) kept) :=
  if_neg (Nat.not_le.2 more)

theorem extends_resizeKeeping (s : Storage t) (kept count : Nat) (m : Memory) :
    m.Extends (s.resizeKeeping kept count m).2 := by
  rcases Nat.lt_or_ge s.capacity count with more | enough
  · rw [resizeKeeping_of_lt more]
    have rest := ((m.extends_allocate t count).off (t, (m.allocate t count).1)).trans
      (Memory.extendsOff_copy _ t s.start (.start (m.allocate t count).1) kept)
    exact rest.all (m.fresh_allocate t count)
  · rw [resizeKeeping_of_le _ _ _ _ enough]
    exact .refl m

theorem renewed_resizeKeeping (owned : s.Owned) (kept count : Nat) (m : Memory) :
    Renewed s.base m (s.resizeKeeping kept count m) where
  owned := by
    rcases Nat.lt_or_ge s.capacity count with more | enough
    · rw [resizeKeeping_of_lt more]
      exact Or.inr (Nat.zero_lt_of_lt more)
    · rw [resizeKeeping_of_le _ _ _ _ enough]
      exact owned
  base := by
    rcases Nat.lt_or_ge s.capacity count with more | enough
    · rw [resizeKeeping_of_lt more]
      exact Or.inr (m.fresh_allocate t count)
    · rw [resizeKeeping_of_le _ _ _ _ enough]
      exact Or.inl rfl
  rest := (s.extends_resizeKeeping kept count m).off _

theorem renewed_cloneFrom (owned : s.Owned) (source : Storage t) (m : Memory) :
    Renewed s.base m (s.cloneFrom source m) := by
  have resized := renewed_resizeKeeping owned 0 source.len m
  have copied := Memory.extendsOff_copy (s.resizeKeeping 0 source.len m).2 t source.start
    (s.resizeKeeping 0 source.len m).1.start source.len
  exact ⟨resized.owned, resized.base, resized.rest.trans copied⟩

theorem Sound.read?_shift (sound : s.Sound m) {k : Nat} (below : k < s.capacity) :
    (m.read? t (s.start.shift k)).isSome := by
  have room := sound.room
  rw [Memory.read?_isSome_iff, Address.cell_shift, Address.base_shift]
  simp only [start, Address.start]
  omega

theorem Owned.null_of_fresh (owned : s.Owned) (sound : s.Sound m) (fresh : m.Fresh t s.base) :
    s.base = .null := by
  refine owned.resolve_right fun positive => ?_
  have first := sound.read?_shift positive
  rw [fresh _ rfl] at first
  cases first

-- The elements that move along are those that were there.
theorem read?_resizeKeeping (sound : s.Sound m) {kept count k : Nat} (held : kept ≤ s.len)
    (fits : kept ≤ count) (below : k < kept) :
    (s.resizeKeeping kept count m).2.read? t ((s.resizeKeeping kept count m).1.start.shift k) =
      m.read? t (s.start.shift k) := by
  rcases Nat.lt_or_ge s.capacity count with more | enough
  · have old : k < s.capacity := Nat.lt_of_lt_of_le (Nat.lt_of_lt_of_le below held) sound.fits
    obtain ⟨v, found⟩ := Option.isSome_iff_exists.1 (sound.read?_shift old)
    have fresh : (⟨s.space, (m.allocate t count).1, count, count, false⟩ : Storage t).Sound
        (m.allocate t count).2 :=
      ⟨Nat.le_refl _, Nat.le_of_eq (m.size_cells_allocate count).symm⟩
    rw [resizeKeeping_of_lt more, found]
    exact Memory.read?_copy_shift below (fresh.read?_shift (Nat.lt_of_lt_of_le below fits))
      (m.extends_allocate t count t _ v found)
  · rw [resizeKeeping_of_le _ _ _ _ enough]
    rfl

-- A source that lies in the buffer itself is read before it is written over.
theorem read?_cloneFrom {source : Storage t} (sound : s.Sound m) (known : source.Sound m)
    {k : Nat} (below : k < source.len) :
    (s.cloneFrom source m).2.read? t ((s.cloneFrom source m).1.start.shift k) =
      m.read? t (source.start.shift k) := by
  have old : k < source.capacity := Nat.lt_of_lt_of_le below known.fits
  obtain ⟨v, found⟩ := Option.isSome_iff_exists.1 (known.read?_shift old)
  have resized := sound.resizeKeeping 0 source.len
  have room : k < (s.resizeKeeping 0 source.len m).1.capacity := by
    have fits := resized.fits
    rw [len_resizeKeeping] at fits
    omega
  rw [found]
  exact Memory.read?_copy_shift below (resized.read?_shift room)
    (s.extends_resizeKeeping 0 source.len m t _ v found)

end Storage

namespace Tensor

/-- A tensor that an operation makes of one with a given buffer, in the memory that it leaves. -/
structure Renewed (old : Base) (m : Memory) (r : Tensor t n × Memory) : Prop where
  made : Made m r
  storage : Storage.Renewed old m (r.1.storage, r.2)

section
variable {x : Tensor t n} {m m' : Memory} {old : Base} {r : Tensor t n × Memory}

theorem Renewed.then (renewed : Renewed old m r) (grows : r.2.Grows m')
    (rest : r.2.ExtendsOff (t, r.1.storage.base) m') : Renewed old m (r.1, m') where
  made := ⟨renewed.made.kept.mono grows, renewed.made.grows.trans grows⟩
  storage := ⟨renewed.storage.owned, renewed.storage.base, renewed.storage.rest.trans rest⟩

theorem Renewed.launch [Numerics] (renewed : Renewed old m r) (c : ExecConfig) (k : Kernel n t) :
    Renewed old m (r.1, Strided.launch c r.1.span k r.2) :=
  renewed.then (Memory.grows_launch _ c _ k) (Memory.extendsOff_launch r.2 c r.1.span k)

theorem Renewed.copy (renewed : Renewed old m r) (source : Address) (count : Nat) :
    Renewed old m (r.1, r.2.copy t source r.1.storage.start count) :=
  renewed.then (Memory.grows_copy _ t _ _ _)
    (Memory.extendsOff_copy r.2 t source r.1.storage.start count)

theorem renewed_resizeKeeping {s : Storage t} (sound : s.Sound m) (owned : s.Owned)
    (shape : Shape n) (kept : Nat) :
    Renewed s.base m (⟨.contiguous shape, (s.resizeKeeping kept shape.size m).1⟩,
      (s.resizeKeeping kept shape.size m).2) :=
  ⟨made_resizeKeeping sound shape kept, Storage.renewed_resizeKeeping owned kept shape.size m⟩

theorem renewed_empty (space : Space) (shape : Shape n) (m : Memory) :
    Renewed .null m (empty space shape m : Tensor t n × Memory) :=
  renewed_resizeKeeping (Storage.sound_empty space m) (Or.inl rfl) shape 0

-- A new tensor shares no buffer with what was there before.
theorem Renewed.fresh (renewed : Renewed .null m r) : m.Fresh t r.1.storage.base := by
  rcases renewed.storage.base with none | fresh
  · exact none ▸ m.fresh_null t
  · exact fresh

theorem Renewed.all (renewed : Renewed .null m r) : m.Extends r.2 :=
  renewed.storage.rest.all renewed.fresh

end

theorem cell_of_dense {x : Tensor t n} (dense : x.layout = .contiguous x.shape) (i : Index n) :
    x.span.cell i = x.storage.start.shift (x.shape.position i) := by
  rw [Span.cell, span, ← Layout.offset_contiguous, dense]

theorem Holds.mono {x : Tensor t n} {m m' : Memory} (holds : x.Holds m) (grows : m.Grows m') :
    x.Holds m' :=
  { holds with room := Nat.le_trans holds.room (grows t _) }

/-- A tensor that has an element for every index has a cell for it. -/
theorem Kept.holds {x : Tensor t n} {m : Memory} (kept : x.Kept m) (live : x.isMovedFrom = false)
    (len : x.storage.len = x.size) : x.Holds m where
  live := live
  dense := kept.dense
  room := len ▸ Nat.le_trans kept.storage.fits kept.storage.room

section
variable (space : Space) (s : Shape n) (m : Memory)

theorem holds_empty :
    (empty (t := t) space s m).1.Holds (empty (t := t) space s m).2 :=
  (made_empty space s m).kept.holds (Storage.released_resizeKeeping _ _ _ _)
    (Storage.len_resizeKeeping _ _ _ _)

theorem space_empty : (empty (t := t) space s m).1.space = space :=
  Storage.space_resizeKeeping _ _ _ _

end

section
variable {c : ExecConfig} {s : Span t n} {m : Memory}

variable [Numerics]

theorem renewed_ofSpan (c : ExecConfig) (s : Span t n) (m : Memory) :
    Renewed .null m (ofSpan c s m) := by
  have renewed := renewed_empty (t := t) s.space s.shape m
  unfold ofSpan
  dsimp only
  split
  · exact renewed
  · split
    · exact renewed.copy _ _
    · exact renewed.launch c _

theorem shape_ofSpan (c : ExecConfig) (s : Span t n) (m : Memory) :
    (ofSpan c s m).1.shape = s.shape := by
  unfold ofSpan
  dsimp only
  split
  · rfl
  · split <;> rfl

theorem space_ofSpan (c : ExecConfig) (s : Span t n) (m : Memory) :
    (ofSpan c s m).1.space = s.space := by
  have space := space_empty (t := t) s.space s.shape m
  unfold ofSpan
  dsimp only
  split
  · exact space
  · split <;> exact space

-- A copy has the elements of the window, whichever way they are copied.
theorem read?_ofSpan (valid : c.Valid) (backed : s.Backed m) {i : Index n}
    (inside : s.shape.Contains i) :
    (ofSpan c s m).2.read? t ((ofSpan c s m).1.span.cell i) = m.read? t (s.cell i) := by
  have renewed := renewed_empty (t := t) s.space s.shape m
  have holds := holds_empty (t := t) s.space s.shape m
  obtain ⟨v, found⟩ := Option.isSome_iff_exists.1 (backed i inside)
  have later := renewed.all t _ v found
  rw [found]
  unfold ofSpan
  dsimp only
  split
  · rename_i none
    have bound : s.shape.position i < s.shape.size := Shape.position_lt_size inside
    exact absurd none (Nat.ne_of_gt (Nat.zero_lt_of_lt bound))
  · split
    · rename_i dense
      have room := holds.backed i inside
      rw [Span.cell, Layout.offset_of_isContiguous dense inside] at later
      rw [cell_of_dense rfl] at room ⊢
      exact Memory.read?_copy_shift (Shape.position_lt_size inside) room later
    · -- The new buffer is fresh, so the window does not reach into it.
      have elementwise : (Term.leaf (.window s) : Kernel n t).Elementwise
          (empty (t := t) s.space s.shape m).1.span := by
        intro j k hj _ read
        obtain ⟨_, same⟩ := Prod.mk.inj (List.mem_singleton.1 read)
        have known := backed j hj
        rw [← same, renewed.fresh _ rfl] at known
        cases known
      rw [read?_launch valid holds.injective holds.backed elementwise inside]
      change some (Memory.read _ t (s.cell i)) = some v
      rw [Memory.read, later, Option.getD_some]

end

end Tensor

end Strided
