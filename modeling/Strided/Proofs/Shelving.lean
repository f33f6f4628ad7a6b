import Strided.Proofs.Renewal
import Strided.Storage.Shelf

/-! Storages over a whole run of commands.

Each storage has a buffer exactly where it has capacity, its length stays within the capacity, and
no two storages share a buffer. A command writes to the buffer of its destination or to a fresh one,
so every other storage keeps its record and its elements, those beyond its length included.
-/

set_option autoImplicit false

namespace Strided

variable {t : DType}

theorem Memory.base_allocate_eq_null_iff {m : Memory} {count : Nat} :
    (m.allocate t count).1 = .null ↔ count = 0 := by
  unfold allocate
  split <;> simp [*]

namespace Storage

/-- Length, capacity, buffer and mark fit together. -/
structure Formed (s : Storage t) : Prop where
  fits : s.len ≤ s.capacity
  null_iff : s.base = .null ↔ s.capacity = 0
  released : s.released = true → s.len = 0 ∧ s.capacity = 0 ∧ s.base = .null

variable {s : Storage t} {m m' : Memory}

theorem formed_empty (space : Space) : (empty space : Storage t).Formed :=
  ⟨Nat.le_refl 0, iff_of_true rfl rfl, nofun⟩

theorem Formed.owned (formed : s.Formed) : s.Owned := by
  by_cases none : s.capacity = 0
  · exact Or.inl (formed.null_iff.2 none)
  · exact Or.inr (Nat.pos_of_ne_zero none)

theorem Formed.resizeKeeping (formed : s.Formed) (kept count : Nat) (m : Memory) :
    (s.resizeKeeping kept count m).1.Formed := by
  rcases Nat.lt_or_ge s.capacity count with more | enough
  · rw [resizeKeeping_of_lt more]
    exact ⟨Nat.le_refl count, Memory.base_allocate_eq_null_iff, nofun⟩
  · rw [resizeKeeping_of_le _ _ _ _ enough]
    exact ⟨enough, formed.null_iff, nofun⟩

/-- A storage that an operation makes of one with a given buffer is fit for use in the memory that
the operation leaves. -/
structure Made (old : Base) (m : Memory) (r : Storage t × Memory) : Prop where
  formed : r.1.Formed
  sound : r.1.Sound r.2
  grows : m.Grows r.2
  renewed : Renewed old m r

theorem Made.of_formed (formed : s.Formed) (sound : s.Sound m) : Made s.base m (s, m) where
  formed := formed
  sound := sound
  grows := .refl m
  renewed := ⟨formed.owned, Or.inl rfl, (Memory.Extends.refl m).off _⟩

theorem made_empty (space : Space) (m : Memory) : Made .null m ((empty space : Storage t), m) :=
  .of_formed (formed_empty space) (sound_empty space m)

section
variable (formed : s.Formed) (sound : s.Sound m)
include formed sound

theorem made_resizeKeeping (kept count : Nat) : Made s.base m (s.resizeKeeping kept count m) where
  formed := formed.resizeKeeping kept count m
  sound := sound.resizeKeeping kept count
  grows := s.grows_resizeKeeping kept count m
  renewed := renewed_resizeKeeping formed.owned kept count m

theorem made_cloneFrom (source : Storage t) : Made s.base m (s.cloneFrom source m) where
  formed := formed.resizeKeeping 0 source.len m
  sound := (sound.resizeKeeping 0 source.len).mono (Memory.grows_copy _ t _ _ _)
  grows := (s.grows_resizeKeeping 0 source.len m).trans (Memory.grows_copy _ t _ _ _)
  renewed := renewed_cloneFrom formed.owned source m

theorem made_take : Made s.base m (s.take.1, m) ∧ Made .null m (s.take.2, m) := by
  have taken : s.take.1.Formed := ⟨formed.fits, formed.null_iff, nofun⟩
  have left : s.take.2.Formed := ⟨Nat.le_refl 0, iff_of_true rfl rfl, fun _ => ⟨rfl, rfl, rfl⟩⟩
  exact ⟨.of_formed taken ⟨sound.fits, sound.room⟩, .of_formed left ⟨Nat.le_refl 0, Nat.zero_le _⟩⟩

end

theorem made_new (space : Space) (count : Nat) (m : Memory) :
    Made .null m (new (t := t) space count m) :=
  made_resizeKeeping (formed_empty space) (sound_empty space m) 0 count

theorem made_ofList (space : Space) (data : List t.Elem) (m : Memory) :
    Made .null m (ofList space data m) := by
  have made := made_new (t := t) space data.length m
  have rest := Memory.extendsOff_writeRun (new (t := t) space data.length m).2
    (new (t := t) space data.length m).1.start data
  have grows := Memory.grows_writeRun (new (t := t) space data.length m).2
    (new (t := t) space data.length m).1.start data
  exact ⟨made.formed, made.sound.mono grows, made.grows.trans grows, made.renewed.owned,
    made.renewed.base, made.renewed.rest.trans rest⟩

@[simp] theorem length_toList (s : Storage t) (m : Memory) : (s.toList m).length = s.len :=
  Memory.length_readRun _ _ _

theorem getElem_toList {k : Nat} (below : k < (s.toList m).length) :
    (s.toList m)[k] = m.read t (s.start.shift k) :=
  Memory.getElem_readRun _ _ _ _ below

theorem getElem?_toList {k : Nat} (below : k < s.len) :
    (s.toList m)[k]? = some (m.read t (s.start.shift k)) := by
  have bound : k < (s.toList m).length := by rwa [length_toList]
  rw [List.getElem?_eq_getElem bound, getElem_toList]

theorem toList_ofList (space : Space) (data : List t.Elem) (m : Memory) :
    (ofList space data m).1.toList (ofList space data m).2 = data := by
  have len : (ofList space data m).1.len = data.length := len_resizeKeeping _ _ _ _
  have made := made_new (t := t) space data.length m
  refine List.ext_getElem (by rw [length_toList, len]) fun k bound below => ?_
  have room : k < (new (t := t) space data.length m).1.capacity := by
    have fits := made.sound.fits
    rw [new, resizeDiscard, len_resizeKeeping] at fits
    exact Nat.lt_of_lt_of_le below fits
  have written := Memory.read?_writeRun_shift below (made.sound.read?_shift room)
  rw [getElem_toList, Memory.read]
  exact congrArg (fun e => Option.getD e t.zero) written

theorem getElem?_toList_resize (sound : s.Sound m) {count k : Nat} (below : k < min s.len count) :
    ((s.resize count m).1.toList (s.resize count m).2)[k]? = (s.toList m)[k]? := by
  obtain ⟨inside, within⟩ := Nat.lt_min.1 below
  have len : (s.resize count m).1.len = count := len_resizeKeeping _ _ _ _
  have cell := read?_resizeKeeping sound (Nat.min_le_left _ _) (Nat.min_le_right _ _) below
  rw [getElem?_toList inside, getElem?_toList (by rwa [len]), Memory.read, Memory.read]
  exact congrArg (fun e => some (Option.getD e t.zero)) cell

-- An element in the buffer of the source rules out that the new buffer is the same.
theorem Made.base_ne {old : Base} {r : Storage t × Memory} (made : Made old m r)
    (formed : s.Formed) (sound : s.Sound m) (clear : old = s.base → s.base = .null)
    (filled : s.len ≠ 0) : r.1.base ≠ s.base := by
  intro same
  have none : s.base = .null := by
    rcases made.renewed.base with here | fresh
    · exact clear (here.symm.trans same)
    · exact formed.owned.null_of_fresh sound (same ▸ fresh)
  have room := formed.fits
  rw [formed.null_iff.1 none] at room
  exact filled (Nat.le_zero.1 room)

theorem toList_congr {r : Storage t} (len : r.len = s.len)
    (cells : ∀ k < s.len, m'.read? t (r.start.shift k) = m.read? t (s.start.shift k)) :
    r.toList m' = s.toList m := by
  refine List.ext_getElem (by simp [len]) fun k bound bound' => ?_
  rw [length_toList] at bound'
  rw [getElem_toList, getElem_toList, Memory.read, Memory.read, cells k bound']

theorem toList_cloneFrom {source : Storage t} (sound : s.Sound m) (known : source.Sound m) :
    (s.cloneFrom source m).1.toList (s.cloneFrom source m).2 = source.toList m :=
  toList_congr (len_resizeKeeping _ _ _ _) fun _ below => read?_cloneFrom sound known below

theorem toList_write (sound : s.Sound m) (position : Nat) (v : t.Elem) :
    s.toList (m.write t (s.start.shift position) v) = (s.toList m).set position v := by
  refine List.ext_getElem (by simp) fun k bound bound' => ?_
  rw [length_toList] at bound
  have room := sound.read?_shift (Nat.lt_of_lt_of_le bound sound.fits)
  obtain ⟨w, here⟩ := Option.isSome_iff_exists.1 room
  have same : s.start.shift k = s.start.shift position ↔ position = k := by
    rw [Address.shift, Address.shift, Address.mk.injEq, eq_self_iff_true, true_and]
    omega
  rw [getElem_toList, List.getElem_set, getElem_toList, Memory.read, Memory.read,
    Memory.read?_write, here]
  simp only [same]
  split <;> rfl

end Storage

def AnyStorage.owner (s : AnyStorage) : DType × Base :=
  (s.dtype, s.storage.base)

namespace Shelf

/-- No storage of another name has the buffer, unless it is null. -/
def Alone (f : Shelf) (name : String) (owner : DType × Base) : Prop :=
  ∀ k r, k ≠ name → f.storage? k = some r → r.owner = owner → owner.2 = .null

/-- The storages are fit for use and share no buffers. -/
structure Ordered (f : Shelf) : Prop where
  formed : ∀ name s, f.storage? name = some s → s.storage.Formed
  sound : ∀ name s, f.storage? name = some s → s.storage.Sound f.memory
  apart : ∀ name s, f.storage? name = some s → f.Alone name s.owner

/-- The storage of a name is as it was, and so is what lies in its buffer. -/
structure Spares (f f' : Shelf) (name : String) : Prop where
  same : f'.storage? name = f.storage? name
  toList : ∀ s, f.storage? name = some s →
    s.storage.toList f'.memory = s.storage.toList f.memory
  cells : ∀ s, f.storage? name = some s → ∀ k < s.storage.capacity,
    f'.memory.read? s.dtype (s.storage.start.shift k) =
      f.memory.read? s.dtype (s.storage.start.shift k)

/-- A step after which the storages are fit for use again and only those of the given names have
changed. -/
structure Passes (f : Shelf) (changed : String → Prop) (f' : Shelf) : Prop where
  ordered : f'.Ordered
  spares : ∀ name, ¬ changed name → f.Spares f' name

variable {f f' f'' : Shelf} {name : String} {changed : String → Prop}

theorem ordered_bare : bare.Ordered :=
  ⟨nofun, nofun, nofun⟩

theorem storage?_put (f : Shelf) (name k : String) (s : Storage t) :
    (f.put name s).storage? k = if k = name then some ⟨s⟩ else f.storage? k := rfl

theorem Spares.trans (first : f.Spares f' name) (second : f'.Spares f'' name) :
    f.Spares f'' name where
  same := second.same.trans first.same
  toList s found := (second.toList s (first.same.trans found)).trans (first.toList s found)
  cells s found k below :=
    (second.cells s (first.same.trans found) k below).trans (first.cells s found k below)

theorem Passes.imp {more : String → Prop} (passes : f.Passes changed f')
    (wider : ∀ k, changed k → more k) : f.Passes more f' :=
  ⟨passes.ordered, fun k other => passes.spares k fun here => other (wider k here)⟩

theorem Passes.trans (first : f.Passes changed f') (second : f'.Passes changed f'') :
    f.Passes changed f'' :=
  ⟨second.ordered, fun k other => (first.spares k other).trans (second.spares k other)⟩

theorem alone_null (f : Shelf) (name : String) (t : DType) : f.Alone name (t, .null) :=
  fun _ _ _ _ _ => rfl

section
variable (ordered : f.Ordered)
include ordered

-- A step that writes to a buffer of no other storage.
theorem Ordered.spares {m : Memory} {owner : DType × Base} (alone : f.Alone name owner)
    (rest : f.memory.ExtendsOff owner m) {k : String} (elsewhere : k ≠ name)
    (same : f'.storage? k = f.storage? k) (memory : f'.memory = m) : f.Spares f' k := by
  have cells (s : AnyStorage) (found : f.storage? k = some s) (i : Nat)
      (below : i < s.storage.capacity) :
      f'.memory.read? s.dtype (s.storage.start.shift i) =
        f.memory.read? s.dtype (s.storage.start.shift i) := by
    obtain ⟨v, here⟩ := Option.isSome_iff_exists.1 ((ordered.sound k s found).read?_shift below)
    rw [memory, here]
    refine rest _ _ v (fun shared => ?_) here
    -- The storage has a cell, so its buffer is not the null one.
    have none : s.storage.base = .null := by
      have := alone k s elsewhere found shared
      rwa [← shared] at this
    rw [(ordered.formed k s found).null_iff.1 none] at below
    cases below
  refine ⟨same, fun s found => Storage.toList_congr rfl fun i below => ?_, cells⟩
  exact cells s found i (Nat.lt_of_lt_of_le below (ordered.formed k s found).fits)

-- A storage that an operation makes takes its name, and no other storage has its buffer.
theorem Ordered.place {old : Base} {r : Storage t × Memory} (made : Storage.Made old f.memory r)
    (alone : f.Alone name (t, old)) : f.Passes (· = name) (f.place name r) := by
  have alone : f.Alone name (t, r.1.base) := by
    intro k s other found same
    rcases made.renewed.base with here | fresh
    · rw [here] at same ⊢
      exact alone k s other found same
    · obtain ⟨rfl, base⟩ := Prod.mk.inj same
      have owned := (ordered.formed k s found).owned
      rw [← base] at fresh ⊢
      exact owned.null_of_fresh (ordered.sound k s found) fresh
  have storage? (k : String) :
      (f.place name r).storage? k = if k = name then some ⟨r.1⟩ else f.storage? k := rfl
  constructor
  · constructor
    · intro k s found
      rw [storage?] at found
      split at found
      · obtain rfl := Option.some.inj found
        exact made.formed
      · exact ordered.formed k s found
    · intro k s found
      rw [storage?] at found
      split at found
      · obtain rfl := Option.some.inj found
        exact made.sound
      · exact (ordered.sound k s found).mono made.grows
    · intro k s found k' s' other found' same
      rw [storage?] at found found'
      split at found
      · rename_i here
        obtain rfl := Option.some.inj found
        rw [if_neg fun here' => other (here'.trans here.symm)] at found'
        exact alone k' s' (here ▸ other) found' same
      · rename_i elsewhere
        split at found'
        · obtain rfl := Option.some.inj found'
          rw [← same]
          exact alone k s elsewhere found same.symm
        · exact ordered.apart k s found k' s' other found' same
  · intro k elsewhere
    exact ordered.spares alone made.renewed.rest elsewhere (if_neg elsewhere) rfl

end

end Shelf

namespace StorageCommand

/-- The storages that a command may change: its destination, and the source of a take. -/
def Changes : StorageCommand → String → Prop
  | take name source, k => k = name ∨ k = source
  | empty name _ _, k | new name _ _ _, k | ofList name _ _, k | resize name _, k
  | resizeDiscard name _, k | clone name _, k | cloneFrom name _, k | write name _ _, k => k = name

/-- The names that a command reads stand for storages, with elements of fitting types. -/
def Known (f : Shelf) : StorageCommand → Prop
  | empty _ _ _ | new _ _ _ _ | ofList _ _ _ => True
  | resize name _ | resizeDiscard name _ => ∃ s, f.storage? name = some s
  | take _ source | clone _ source => ∃ s, f.storage? source = some s
  | cloneFrom name source => ∃ (t : DType) (s r : Storage t),
    f.storage? name = some ⟨s⟩ ∧ f.storage? source = some ⟨r⟩
  | @write name t _ _ => ∃ s : Storage t, f.storage? name = some ⟨s⟩

/-- What a command makes of the storages that it changes. -/
def Effect (f f' : Shelf) : StorageCommand → Prop
  | empty name t space => f'.storage? name = some ⟨(Storage.empty space : Storage t)⟩
  | new name t _ count => ∃ s : Storage t, f'.storage? name = some ⟨s⟩ ∧ s.released = false ∧
    s.len = count ∧ s.capacity = count
  | @ofList name _ t data => ∃ s : Storage t, f'.storage? name = some ⟨s⟩ ∧ s.released = false ∧
    s.len = data.length ∧ s.capacity = data.length ∧ s.toList f'.memory = data
  | resize name count => ∃ (t : DType) (old new : Storage t), f.storage? name = some ⟨old⟩ ∧
    f'.storage? name = some ⟨new⟩ ∧ new.released = false ∧ new.len = count ∧
    new.capacity = max old.capacity count ∧ (count ≤ old.capacity → new.base = old.base) ∧
    ∀ k < min old.len count, (new.toList f'.memory)[k]? = (old.toList f.memory)[k]?
  | resizeDiscard name count => ∃ (t : DType) (old new : Storage t), f.storage? name = some ⟨old⟩ ∧
    f'.storage? name = some ⟨new⟩ ∧ new.released = false ∧ new.len = count ∧
    new.capacity = max old.capacity count ∧ (count ≤ old.capacity → new.base = old.base)
  | take name source => ∃ (t : DType) (s taken : Storage t), f.storage? source = some ⟨s⟩ ∧
    f'.storage? name = some ⟨taken⟩ ∧ taken.released = false ∧ taken.base = s.base ∧
    taken.len = s.len ∧ taken.capacity = s.capacity ∧
    taken.toList f'.memory = s.toList f.memory ∧
    (source ≠ name → ∃ left : Storage t, f'.storage? source = some ⟨left⟩ ∧ left.released = true)
  | clone name source => ∃ (t : DType) (s new : Storage t), f.storage? source = some ⟨s⟩ ∧
    f'.storage? name = some ⟨new⟩ ∧ new.released = false ∧ new.len = s.len ∧
    new.capacity = s.len ∧ new.toList f'.memory = s.toList f.memory ∧
    (s.len ≠ 0 → new.base ≠ s.base)
  | cloneFrom name source => ∃ (t : DType) (old s new : Storage t), f.storage? name = some ⟨old⟩ ∧
    f.storage? source = some ⟨s⟩ ∧ f'.storage? name = some ⟨new⟩ ∧ new.released = false ∧
    new.len = s.len ∧ new.capacity = max old.capacity s.len ∧
    new.toList f'.memory = s.toList f.memory ∧
    (name ≠ source → s.len ≠ 0 → new.base ≠ s.base)
  | @write name t position v => f'.storage? = f.storage? ∧
    ∃ s : Storage t, f.storage? name = some ⟨s⟩ ∧
      s.toList f'.memory = (s.toList f.memory).set position v

end StorageCommand

namespace Shelf

variable {f : Shelf} {name source : String}

def Carries (f : Shelf) (c : StorageCommand) : Prop :=
  ∃ f', f.run c = some f' ∧ c.Effect f f' ∧ f.Passes c.Changes f'

theorem storage_eq_some_iff {s : Storage t} :
    f.storage t name = some s ↔ f.storage? name = some ⟨s⟩ := by
  unfold storage
  cases found : f.storage? name with
  | none => simp
  | some r =>
    obtain ⟨r⟩ := r
    constructor
    · intro typed
      obtain ⟨same, typed⟩ := Option.dite_none_right_eq_some.1 typed
      subst same
      exact congrArg (fun r => some (AnyStorage.mk r)) (Option.some.inj typed)
    · intro same
      cases Option.some.inj same
      exact dif_pos rfl

section
variable (ordered : f.Ordered)
include ordered

theorem Ordered.empty (name : String) (t : DType) (space : Space) :
    f.Carries (.empty name t space) :=
  ⟨_, rfl, if_pos rfl, ordered.place (Storage.made_empty space f.memory) (f.alone_null name t)⟩

theorem Ordered.new (name : String) (t : DType) (space : Space) (count : Nat) :
    f.Carries (.new name t space count) := by
  have made := Storage.made_new (t := t) space count f.memory
  refine ⟨_, rfl, ⟨_, if_pos rfl, ?_, ?_, ?_⟩, ordered.place made (f.alone_null name t)⟩
  · exact Storage.released_resizeKeeping _ _ _ _
  · exact Storage.len_resizeKeeping _ _ _ _
  · exact (Storage.capacity_resizeKeeping _ _ _ _).trans (Nat.zero_max count)

theorem Ordered.ofList (name : String) (space : Space) (data : List t.Elem) :
    f.Carries (.ofList name space data) := by
  have made := Storage.made_ofList space data f.memory
  refine ⟨_, rfl, ⟨_, if_pos rfl, ?_, ?_, ?_, ?_⟩, ordered.place made (f.alone_null name t)⟩
  · exact Storage.released_resizeKeeping _ _ _ _
  · exact Storage.len_resizeKeeping _ _ _ _
  · exact (Storage.capacity_resizeKeeping _ _ _ _).trans (Nat.zero_max _)
  · exact Storage.toList_ofList space data f.memory

section
variable {s : Storage t} (found : f.storage? name = some ⟨s⟩)
include found

theorem Ordered.resize (count : Nat) : f.Carries (.resize name count) := by
  have sound := ordered.sound name _ found
  have formed := ordered.formed name _ found
  have made := Storage.made_resizeKeeping formed sound (min s.len count) count
  refine ⟨f.place name (s.resize count f.memory), by simp [run, found], ?_,
    ordered.place made (ordered.apart name _ found)⟩
  refine ⟨t, s, _, found, if_pos rfl, ?_, ?_, ?_, ?_, ?_⟩
  · exact Storage.released_resizeKeeping _ _ _ _
  · exact Storage.len_resizeKeeping _ _ _ _
  · exact Storage.capacity_resizeKeeping _ _ _ _
  · intro enough
    rw [Storage.resize, Storage.resizeKeeping_of_le _ _ _ _ enough]
  · exact fun k below => Storage.getElem?_toList_resize sound below

theorem Ordered.resizeDiscard (count : Nat) : f.Carries (.resizeDiscard name count) := by
  have sound := ordered.sound name _ found
  have made := Storage.made_resizeKeeping (ordered.formed name _ found) sound 0 count
  refine ⟨f.place name (s.resizeDiscard count f.memory), by simp [run, found], ?_,
    ordered.place made (ordered.apart name _ found)⟩
  refine ⟨t, s, _, found, if_pos rfl, ?_, ?_, ?_, ?_⟩
  · exact Storage.released_resizeKeeping _ _ _ _
  · exact Storage.len_resizeKeeping _ _ _ _
  · exact Storage.capacity_resizeKeeping _ _ _ _
  · intro enough
    rw [Storage.resizeDiscard_of_le _ enough]

theorem Ordered.write (position : Nat) (v : t.Elem) : f.Carries (.write name position v) := by
  have sound := ordered.sound name _ found
  refine ⟨{ f with memory := f.memory.write t (s.start.shift position) v },
    by simp [run, storage_eq_some_iff.2 found], ?_, ?_⟩
  · exact ⟨rfl, s, found, Storage.toList_write sound position v⟩
  · have grows := f.memory.grows_write (s.start.shift position) v
    have rest := f.memory.extendsOff_write (s.start.shift position) v
    constructor
    · exact ⟨ordered.formed, fun k r known => (ordered.sound k r known).mono grows, ordered.apart⟩
    · exact fun k elsewhere => ordered.spares (ordered.apart name _ found) rest elsewhere rfl rfl

end

section
variable {s : Storage t} (found : f.storage? source = some ⟨s⟩)
include found

theorem Ordered.take (name : String) : f.Carries (.take name source) := by
  have formed := ordered.formed source _ found
  have sound := ordered.sound source _ found
  obtain ⟨taken, left⟩ := Storage.made_take formed sound
  have emptied : f.Passes (· = source) (f.put source s.take.2) :=
    ordered.place left (f.alone_null source t)
  -- The buffer is no longer that of the source.
  have alone : (f.put source s.take.2).Alone name (t, s.base) := by
    intro k r other found' same
    rw [storage?_put] at found'
    split at found'
    · obtain rfl := Option.some.inj found'
      exact (congrArg Prod.snd same).symm
    · exact ordered.apart source _ found k r ‹_› found' same
  have moved : (f.put source s.take.2).Passes (· = name)
      ((f.put source s.take.2).put name s.take.1) := emptied.ordered.place taken alone
  refine ⟨(f.put source s.take.2).put name s.take.1, by simp [run, found], ?_,
    (emptied.imp fun _ => Or.inr).trans (moved.imp fun _ => Or.inl)⟩
  refine ⟨t, s, s.take.1, found, if_pos rfl, rfl, rfl, rfl, rfl, rfl, fun other => ?_⟩
  exact ⟨s.take.2, (if_neg other).trans (if_pos rfl), rfl⟩

theorem Ordered.clone (name : String) : f.Carries (.clone name source) := by
  have formed := ordered.formed source _ found
  have sound := ordered.sound source _ found
  have made := Storage.made_cloneFrom (Storage.formed_empty s.space)
    (Storage.sound_empty s.space f.memory) s
  refine ⟨f.place name (s.clone f.memory), by simp [run, found], ?_,
    ordered.place made (f.alone_null name t)⟩
  refine ⟨t, s, _, found, if_pos rfl, ?_, ?_, ?_, ?_, ?_⟩
  · exact Storage.released_resizeKeeping _ _ _ _
  · exact Storage.len_resizeKeeping _ _ _ _
  · exact (Storage.capacity_resizeKeeping _ _ _ _).trans (Nat.zero_max _)
  · exact Storage.toList_cloneFrom (Storage.sound_empty s.space f.memory) sound
  · exact made.base_ne formed sound Eq.symm

theorem Ordered.cloneFrom {old : Storage t} (here : f.storage? name = some ⟨old⟩) :
    f.Carries (.cloneFrom name source) := by
  have formed := ordered.formed source _ found
  have sound := ordered.sound source _ found
  have made := Storage.made_cloneFrom (ordered.formed name _ here) (ordered.sound name _ here) s
  refine ⟨f.place name (old.cloneFrom s f.memory),
    by simp [run, here, storage_eq_some_iff.2 found], ?_,
    ordered.place made (ordered.apart name _ here)⟩
  refine ⟨t, old, s, _, here, found, if_pos rfl, ?_, ?_, ?_, ?_, fun other => ?_⟩
  · exact Storage.released_resizeKeeping _ _ _ _
  · exact Storage.len_resizeKeeping _ _ _ _
  · exact Storage.capacity_resizeKeeping _ _ _ _
  · exact Storage.toList_cloneFrom (ordered.sound name _ here) sound
  · refine made.base_ne formed sound fun same => ?_
    exact ordered.apart source _ found name _ other here (congrArg (Prod.mk t) same)

end

theorem Ordered.carries {c : StorageCommand} (known : c.Known f) : f.Carries c := by
  cases c with
  | empty name t space => exact ordered.empty name t space
  | new name t space count => exact ordered.new name t space count
  | ofList name space data => exact ordered.ofList name space data
  | resize name count =>
    obtain ⟨_, found⟩ := known
    exact ordered.resize found count
  | resizeDiscard name count =>
    obtain ⟨_, found⟩ := known
    exact ordered.resizeDiscard found count
  | take name source =>
    obtain ⟨_, found⟩ := known
    exact ordered.take found name
  | clone name source =>
    obtain ⟨_, found⟩ := known
    exact ordered.clone found name
  | cloneFrom name source =>
    obtain ⟨_, _, _, here, found⟩ := known
    exact ordered.cloneFrom found here
  | write name position v =>
    obtain ⟨_, found⟩ := known
    exact ordered.write found position v

end

-- A command is carried out only if it knows its names.
theorem known_of_run {f' : Shelf} {c : StorageCommand} (done : f.run c = some f') : c.Known f := by
  cases c with
  | empty | new | ofList => trivial
  | resize | resizeDiscard | take | clone =>
    obtain ⟨s, found, -⟩ := Option.bind_eq_some_iff.1 done
    exact ⟨s, found⟩
  | cloneFrom name source =>
    obtain ⟨⟨s⟩, here, done⟩ := Option.bind_eq_some_iff.1 done
    obtain ⟨r, found, -⟩ := Option.bind_eq_some_iff.1 done
    exact ⟨_, s, r, here, storage_eq_some_iff.1 found⟩
  | write name position v =>
    obtain ⟨s, found, -⟩ := Option.bind_eq_some_iff.1 done
    exact ⟨s, storage_eq_some_iff.1 found⟩

/-- The shelf after commands; one that cannot be carried out changes nothing. -/
def after (f : Shelf) (commands : List StorageCommand) : Shelf :=
  commands.foldl (fun f c => (f.run c).getD f) f

theorem after_append_singleton (f : Shelf) (commands : List StorageCommand) (c : StorageCommand) :
    f.after (commands ++ [c]) = ((f.after commands).run c).getD (f.after commands) :=
  List.foldl_concat _ f c commands

theorem Ordered.after (ordered : f.Ordered) (commands : List StorageCommand) :
    (f.after commands).Ordered := by
  induction commands using List.reverseRecOn with
  | nil => exact ordered
  | append_singleton commands c ih =>
    rw [after_append_singleton]
    cases done : (f.after commands).run c with
    | none => exact ih
    | some f' =>
      obtain ⟨_, done', _, passes⟩ := ih.carries (known_of_run done)
      obtain rfl := Option.some.inj (done.symm.trans done')
      exact passes.ordered

/-- In every state that commands lead to, the records of the storages fit together, and each storage
has a cell for its whole capacity. A command whose names are known is carried out there, with its
effect on the storages that it may change and none on any other. -/
theorem after_exact (commands : List StorageCommand) :
    (∀ name s, (bare.after commands).storage? name = some s → s.storage.Formed ∧
        ∀ k < s.storage.capacity,
          ((bare.after commands).memory.read? s.dtype (s.storage.start.shift k)).isSome) ∧
      ∀ c : StorageCommand, c.Known (bare.after commands) →
        ∃ f, (bare.after commands).run c = some f ∧ c.Effect (bare.after commands) f ∧
          ∀ name, ¬ c.Changes name → (bare.after commands).Spares f name := by
  have ordered := ordered_bare.after commands
  constructor
  · intro name s found
    have sound := ordered.sound name s found
    exact ⟨ordered.formed name s found, fun k below => sound.read?_shift below⟩
  · intro c known
    obtain ⟨f, done, effect, passes⟩ := ordered.carries known
    exact ⟨f, done, effect, passes.spares⟩

/-- Three numbers, cut down to the first one in their buffer, and a copy of what is left. -/
def shortened : List StorageCommand :=
  [.ofList "numbers" .host (t := .i32) [10, 20, 30], .resize "numbers" 1, .clone "copy" "numbers"]

/-- The larger buffer takes over one element; the two that were cut off are gone. -/
theorem after_exact_shortened :
    (StorageCommand.resize "numbers" 4).Known (bare.after shortened) ∧
      ∃ f, (bare.after shortened).run (.resize "numbers" 4) = some f ∧
        (∃ s : Storage .i32, f.storage? "numbers" = some ⟨s⟩ ∧ s.len = 4 ∧ s.capacity = 4 ∧
          (s.toList f.memory)[0]? = some 10) ∧
        (bare.after shortened).Spares f "copy" := by
  have found : (bare.after shortened).storage? "numbers" =
      some ⟨(⟨.host, .buffer 0, 1, 3, false⟩ : Storage .i32)⟩ := rfl
  have known : (StorageCommand.resize "numbers" 4).Known (bare.after shortened) := ⟨_, found⟩
  have other : "copy" ≠ "numbers" := by decide
  obtain ⟨f, done, ⟨t, old, new, here, made, -, len, capacity, -, kept⟩, spares⟩ :=
    (after_exact shortened).2 (.resize "numbers" 4) known
  cases here.symm.trans found
  refine ⟨known, f, done, ⟨new, made, len, capacity, ?_⟩, spares "copy" other⟩
  exact (kept 0 (by decide)).trans rfl

end Shelf

end Strided
