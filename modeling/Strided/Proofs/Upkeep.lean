import Strided.Proofs.Assignment
import Strided.Workspace.Command

/-! Layouts and buffers that are kept in step.

A tensor records its extents in its layout and the number of its elements in its storage, and every
operation changes the two on its own. In a run of commands they stay in step: a tensor is dense, its
storage is as long as its shape asks for, and the buffer has a cell for every element. Memory only
grows, so what a command does to one tensor takes no cell away from another.

The exception are tensors of rank 0. One that was moved from still has a shape of one element, but
no buffer for it, and its clones are live tensors without an element.
-/

set_option autoImplicit false

namespace Strided

variable {t : DType} {n : Nat}

namespace Memory

/-- Every buffer has at least as many cells as before. -/
def Grows (m m' : Memory) : Prop :=
  ∀ u base, (m.cells u base).size ≤ (m'.cells u base).size

theorem Grows.refl (m : Memory) : m.Grows m :=
  fun _ _ => Nat.le_refl _

theorem Grows.trans {m m' m'' : Memory} (first : m.Grows m') (second : m'.Grows m'') :
    m.Grows m'' :=
  fun u base => Nat.le_trans (first u base) (second u base)

theorem grows_allocate (m : Memory) (t : DType) (count : Nat) : m.Grows (m.allocate t count).2 := by
  intro u base
  unfold allocate
  split
  · exact Nat.le_refl _
  · unfold cells
    cases base with
    | null | foreign => exact Nat.le_refl _
    | buffer k =>
      by_cases same : u = t
      · subst same
        simp only [DType.Family.get_modify_self, Array.getElem?_push]
        split
        · rename_i last
          simp [last]
        · exact Nat.le_refl _
      · simp only [DType.Family.get_modify_of_ne _ same]
        exact Nat.le_refl _

theorem grows_write (m : Memory) (a : Address) (v : t.Elem) : m.Grows (m.write t a v) :=
  fun u base => Nat.le_of_eq (size_cells_write m a v u base).symm

theorem grows_writeRun (m : Memory) (a : Address) (vs : List t.Elem) :
    m.Grows (m.writeRun t a vs) := by
  induction vs generalizing m a with
  | nil => exact .refl m
  | cons v vs ih => exact (m.grows_write a v).trans (ih _ _)

theorem grows_copy (m : Memory) (t : DType) (source target : Address) (count : Nat) :
    m.Grows (m.copy t source target count) :=
  m.grows_writeRun target _

theorem grows_launch [Numerics] (m : Memory) (c : ExecConfig) (target : Span t n) (k : Kernel n t) :
    m.Grows (launch c target k m) :=
  fun u base => Nat.le_of_eq (size_cells_launch c target k m u base).symm

end Memory

namespace Storage

variable {s : Storage t} {m m' : Memory}

theorem Sound.mono (sound : s.Sound m) (grows : m.Grows m') : s.Sound m' :=
  ⟨sound.fits, Nat.le_trans sound.room (grows t s.base)⟩

theorem grows_resizeKeeping (s : Storage t) (kept count : Nat) (m : Memory) :
    m.Grows (s.resizeKeeping kept count m).2 := by
  unfold resizeKeeping
  split
  · exact .refl m
  · exact (m.grows_allocate t count).trans (Memory.grows_copy _ t _ _ kept)

theorem Sound.resizeKeeping (sound : s.Sound m) (kept count : Nat) :
    (s.resizeKeeping kept count m).1.Sound (s.resizeKeeping kept count m).2 := by
  unfold Storage.resizeKeeping
  split
  · exact ⟨‹_›, sound.room⟩
  · have fresh : (⟨s.space, (m.allocate t count).1, count, count, false⟩ : Storage t).Sound
        (m.allocate t count).2 :=
      ⟨Nat.le_refl _, Nat.le_of_eq (m.size_cells_allocate count).symm⟩
    exact fresh.mono (Memory.grows_copy _ t _ _ kept)

theorem sound_empty (space : Space) (m : Memory) : (empty space : Storage t).Sound m :=
  ⟨Nat.le_refl _, Nat.zero_le _⟩

end Storage

theorem Shape.size_zeros (n : Nat) : (zeros : Shape (n + 1)).size = 0 := by
  rw [size, toList, zeros, ofFn, Vector.toList_ofFn, List.ofFn_succ, Radix.size, Nat.zero_mul]

namespace Tensor

/-- Layout and storage are in step. -/
structure Kept (x : Tensor t n) (m : Memory) : Prop where
  dense : x.layout = .contiguous x.shape
  len : x.storage.len = x.size ∨ n = 0 ∧ x.storage.len = 0
  storage : x.storage.Sound m
  moved : x.isMovedFrom = true → x.shape = .zeros

/-- A tensor that an operation makes, in the memory that it leaves. -/
structure Made (m : Memory) (r : Tensor t n × Memory) : Prop where
  kept : r.1.Kept r.2
  grows : m.Grows r.2

section
variable {x y : Tensor t n} {m m' : Memory}

theorem Kept.mono (kept : x.Kept m) (grows : m.Grows m') : x.Kept m' :=
  { kept with storage := kept.storage.mono grows }

-- Every operation that gives a shape goes through a new length of the storage.
theorem made_resizeKeeping {s : Storage t} (sound : s.Sound m) (shape : Shape n) (kept : Nat) :
    Made m (⟨.contiguous shape, (s.resizeKeeping kept shape.size m).1⟩,
      (s.resizeKeeping kept shape.size m).2) where
  kept := {
    dense := rfl
    len := Or.inl (Storage.len_resizeKeeping s kept shape.size m)
    storage := sound.resizeKeeping kept shape.size
    moved := fun released => by
      rw [isMovedFrom, Storage.released_resizeKeeping] at released
      cases released }
  grows := s.grows_resizeKeeping kept shape.size m

theorem Made.copy {r : Tensor t n × Memory} (made : Made m r) (source target : Address)
    (count : Nat) : Made m (r.1, r.2.copy t source target count) where
  kept := made.kept.mono (Memory.grows_copy _ t source target count)
  grows := made.grows.trans (Memory.grows_copy _ t source target count)

theorem Made.launch [Numerics] {r : Tensor t n × Memory} (made : Made m r) (c : ExecConfig)
    (target : Span t n) (k : Kernel n t) : Made m (r.1, Strided.launch c target k r.2) where
  kept := made.kept.mono (Memory.grows_launch _ c target k)
  grows := made.grows.trans (Memory.grows_launch _ c target k)

theorem made_empty (space : Space) (shape : Shape n) (m : Memory) :
    Made m (empty space shape m : Tensor t n × Memory) :=
  made_resizeKeeping (Storage.sound_empty space m) shape 0

theorem made_ofList {space : Space} {shape : Shape n} {data : List t.Elem}
    {r : Tensor t n × Memory} (ok : ofList space shape data m = .ok r) : Made m r := by
  unfold ofList at ok
  split at ok
  · rename_i length
    obtain rfl := Except.ok.inj ok
    have made := made_empty (t := t) space shape m
    simp only [empty, length] at made
    exact ⟨made.kept.mono (Memory.grows_writeRun _ _ data),
      made.grows.trans (Memory.grows_writeRun _ _ data)⟩
  · cases ok

theorem made_ofNested {space : Space} {data : Nested t.Elem n} {r : Tensor t n × Memory}
    (ok : ofNested space data m = .ok r) : Made m r := by
  obtain ⟨shape, _, ok⟩ := Outcome.bind_eq_ok_iff.1 ok
  exact made_ofList ok

theorem made_full [Numerics] (c : ExecConfig) (space : Space) (shape : Shape n) (v : t.Elem)
    (m : Memory) :
    Made m (full c space shape v m) := by
  have made := made_empty (t := t) space shape m
  unfold full
  dsimp only
  split
  · exact made
  · exact made.launch c _ _

theorem Kept.resize (kept : x.Kept m) (shape : Shape n) : Made m (x.resize shape m) :=
  made_resizeKeeping kept.storage shape _

theorem Kept.resizeDiscard (kept : x.Kept m) (shape : Shape n) :
    Made m (x.resizeDiscard shape m) :=
  made_resizeKeeping kept.storage shape 0

theorem Kept.take (kept : x.Kept m) : x.take.1.Kept m ∧ x.take.2.Kept m where
  left := {
    dense := kept.dense
    len := kept.len
    storage := ⟨kept.storage.fits, kept.storage.room⟩
    moved := nofun }
  right := {
    dense := rfl
    len := by
      cases n with
      | zero => exact Or.inr ⟨rfl, rfl⟩
      | succ n => exact Or.inl (Shape.size_zeros n).symm
    storage := ⟨Nat.le_refl _, Nat.zero_le _⟩
    moved := fun _ => rfl }

theorem made_cloneFrom (sound : x.storage.Sound m) (source : y.Kept m) :
    Made m (x.cloneFrom y m) where
  kept := {
    dense := source.dense
    len := by
      have len : (x.cloneFrom y m).1.storage.len = y.storage.len :=
        Storage.len_resizeKeeping x.storage 0 y.storage.len m
      rw [len]
      exact source.len
    storage := (sound.resizeKeeping 0 _).mono (Memory.grows_copy _ t _ _ _)
    moved := fun released => by
      have live : (x.cloneFrom y m).1.isMovedFrom = false :=
        Storage.released_resizeKeeping x.storage 0 y.storage.len m
      rw [live] at released
      cases released }
  grows := (x.storage.grows_resizeKeeping 0 _ m).trans (Memory.grows_copy _ t _ _ _)

theorem Kept.clone (kept : x.Kept m) : Made m (x.clone m) :=
  made_cloneFrom (x := ⟨x.layout, .empty x.space⟩) (Storage.sound_empty x.space m) kept

theorem made_toSpace {space : Space} {r : Tensor t n × Memory}
    (ok : x.toSpace space m = .ok r) : Made m r := by
  obtain ⟨_, _, ok⟩ := Outcome.bind_eq_ok_iff.1 ok
  obtain rfl := Except.ok.inj ok
  exact (made_empty space x.shape m).copy _ _ _

theorem made_ofSpan [Numerics] (c : ExecConfig) (s : Span t n) (m : Memory) :
    Made m (ofSpan c s m) := by
  have made := made_empty (t := t) s.space s.shape m
  unfold ofSpan
  dsimp only
  split
  · exact made
  · split
    · exact made.copy _ _ _
    · exact made.launch c _ _

end

end Tensor

namespace Span

variable {c : ExecConfig} {target : Span t n} {m m' : Memory}

theorem grows_assign [Numerics] {e : Expr n t} (ok : target.assign c e m = .ok m') :
    m.Grows m' := by
  obtain ⟨_, _, ok⟩ := Outcome.bind_eq_ok_iff.1 ok
  obtain ⟨_, _, ok⟩ := Outcome.bind_eq_ok_iff.1 ok
  obtain ⟨_, _, ok⟩ := Outcome.bind_eq_ok_iff.1 ok
  obtain rfl := Except.ok.inj ok
  split
  · exact .refl m
  · exact m.grows_launch c target _

theorem grows_set? {i : Index n} {v : t.Elem} (ok : target.set? i v m = .ok m') :
    m.Grows m' := by
  obtain ⟨_, _, ok⟩ := Outcome.bind_eq_ok_iff.1 ok
  obtain rfl := Except.ok.inj ok
  exact m.grows_write _ v

theorem grows_transfer [Numerics] (c : ExecConfig) (source target : Span t n) (m : Memory) :
    m.Grows (source.transfer c target m) := by
  unfold transfer
  dsimp only
  split
  · exact m.grows_copy t _ _ _
  · split
    · exact m.grows_launch c target _
    · have staged := (Tensor.made_ofSpan c source m).grows
      split
      · exact staged.trans (Memory.grows_copy _ t _ _ _)
      · have landed := (Tensor.made_empty (t := t) target.space target.shape
          (Tensor.ofSpan c source m).2).grows
        exact (staged.trans landed).trans
          ((Memory.grows_copy _ t _ _ _).trans (Memory.grows_launch _ c target _))

end Span

theorem Operand.grows_copy [Numerics] {c : ExecConfig} {source target : Operand t n} {m m' : Memory}
    (ok : source.copy c target m = .ok m') : m.Grows m' := by
  obtain ⟨origin, _, ok⟩ := Outcome.bind_eq_ok_iff.1 ok
  obtain ⟨into, _, ok⟩ := Outcome.bind_eq_ok_iff.1 ok
  split at ok
  · obtain rfl := Except.ok.inj ok
    split
    · exact .refl m
    · exact Span.grows_transfer c origin into m
  · cases ok

namespace Tensor

variable {c : ExecConfig} {x y : Tensor t n} {m m' : Memory}

theorem Kept.adopt (kept : x.Kept m) (s : Shape n) : Made m (x.adopt s m) := by
  unfold Tensor.adopt
  split
  · exact kept.resizeDiscard s
  · exact ⟨kept, .refl m⟩

variable [Numerics]

theorem Kept.assign (kept : x.Kept m) (c : ExecConfig) (e : Expr n t) :
    Made m (x.assign c e m).2 := by
  unfold Tensor.assign
  split
  · exact ⟨kept, .refl m⟩
  · exact ⟨kept, .refl m⟩
  · rename_i s _ _
    have adopted := kept.adopt s
    dsimp only
    split
    · exact adopted
    · rename_i done
      have grows := Span.grows_assign done
      exact ⟨adopted.kept.mono grows, adopted.grows.trans grows⟩

theorem made_ofExpr {space : Space} {e : Expr n t} {r : Tensor t n × Memory}
    (ok : ofExpr c space e m = .ok r) : Made m r := by
  have made := made_empty (t := t) space (.zeros : Shape n) m
  have assigned := made.kept.assign c e
  unfold ofExpr at ok
  dsimp only at ok
  split at ok
  · rename_i x m' done
    obtain rfl := Except.ok.inj ok
    change (empty space .zeros m).1.assign c e (empty space .zeros m).2 = _ at done
    rw [done] at assigned
    exact ⟨assigned.kept, made.grows.trans assigned.grows⟩
  · cases ok

theorem grows_update {op : BinaryOp} {e : Expr n t} (ok : x.update c op e m = .ok m') :
    m.Grows m' := by
  obtain ⟨_, _, ok⟩ := Outcome.bind_eq_ok_iff.1 ok
  exact Span.grows_assign ok

theorem grows_fill {v : t.Elem} (ok : x.fill c v m = .ok m') : m.Grows m' := by
  obtain ⟨_, _, ok⟩ := Outcome.bind_eq_ok_iff.1 ok
  exact Span.grows_assign ok

end Tensor

-- A traversal goes on from the memory that each leaf leaves.
theorem Term.advances_traverse {L M : DType → Type} {ε : Type}
    {f : {t : DType} → L t → StateT Memory (Except ε) (M t)} {R : Memory → Memory → Prop}
    (trans : ∀ {m m' m''}, R m m' → R m' m'' → R m m'')
    (leaf : ∀ {t : DType} (a : L t) {m r}, (f a).run m = .ok r → R m r.2) {e : Term L t}
    {m : Memory} {r : Term M t × Memory} (ok : (e.traverse f).run m = .ok r) : R m r.2 := by
  induction e generalizing m with
  | leaf a =>
    simp only [Term.traverse, StateT.run_map] at ok
    obtain ⟨_, found, rfl⟩ := Outcome.map_eq_ok_iff.1 ok
    exact leaf a found
  | binary op l r ihl ihr =>
    simp only [Term.traverse, StateT.run_bind] at ok
    obtain ⟨_, left, ok⟩ := Outcome.bind_eq_ok_iff.1 ok
    obtain ⟨_, right, ok⟩ := Outcome.bind_eq_ok_iff.1 ok
    obtain rfl := Except.ok.inj ok
    have first := ihl left
    have second := ihr right
    exact trans first second
  | unary op e ih =>
    simp only [Term.traverse, StateT.run_map] at ok
    obtain ⟨_, found, rfl⟩ := Outcome.map_eq_ok_iff.1 ok
    have operand := ih found
    exact operand
  | cast t e ih =>
    simp only [Term.traverse, StateT.run_map] at ok
    obtain ⟨_, found, rfl⟩ := Outcome.map_eq_ok_iff.1 ok
    have operand := ih found
    exact operand

namespace Workspace

def Kept (w : Workspace) : Prop :=
  ∀ name x, w.tensor? name = some x → x.tensor.Kept w.memory

variable {w w' : Workspace} {c : ExecConfig} {name : String}

theorem find_eq_ok_iff {x : AnyTensor} : w.find name = .ok x ↔ w.tensor? name = some x := by
  unfold find
  split <;> simp [*]

theorem tensor_eq_ok_iff {x : Tensor t n} :
    w.tensor t n name = .ok x ↔ w.tensor? name = some ⟨x⟩ := by
  simp only [tensor, Outcome.bind_eq_ok_iff, find_eq_ok_iff]
  constructor
  · rintro ⟨y, found, ok⟩
    split at ok
    · rename_i same
      obtain ⟨u, k, y⟩ := y
      obtain ⟨rfl, rfl⟩ := same
      rw [found, ← Except.ok.inj ok]
    · cases ok
  · intro found
    exact ⟨_, found, dif_pos ⟨rfl, rfl⟩⟩

theorem Kept.put (kept : w.Kept) {r : Tensor t n × Memory} (made : Tensor.Made w.memory r)
    (name : String) : ({ w with memory := r.2 }.put name r.1).Kept := by
  intro k x found
  rw [tensor?_put] at found
  split at found
  · obtain rfl := Option.some.inj found
    exact made.kept
  · exact (kept k x found).mono made.grows

theorem Kept.withTensor (kept : w.Kept) {r : Except Error (Tensor t n × Memory)}
    (made : ∀ y, r = .ok y → Tensor.Made w.memory y) (ok : w.withTensor name r = .ok w') :
    w'.Kept := by
  cases r with
  | error fault => cases ok
  | ok y =>
    obtain rfl := Except.ok.inj ok
    exact kept.put (made y rfl) name

theorem Kept.mono (kept : w.Kept) {m : Memory} (grows : w.memory.Grows m) :
    { w with memory := m }.Kept :=
  fun k x found => (kept k x found).mono grows

theorem Kept.withMemory (kept : w.Kept) {r : Except Error Memory}
    (grows : ∀ m, r = .ok m → w.memory.Grows m) (ok : w.withMemory r = .ok w') : w'.Kept := by
  cases r with
  | error fault => cases ok
  | ok m =>
    obtain rfl := Except.ok.inj ok
    exact kept.mono (grows m rfl)

section
variable (w c) (m : Memory) (slices : List SliceStep)

variable [Numerics]

theorem run_resolve_tensor : (w.resolve c (.tensor name : Reference n t)).run m =
    (fun x => (.array (.tensor x), m)) <$> w.tensor t n name := by
  simp [resolve]

theorem run_resolve_view : (w.resolve c (.view name slices : Reference n t)).run m =
    (fun s => (.array (.window s), m)) <$> w.view t n name slices := by
  simp [resolve]

theorem run_resolve_copied : (w.resolve c (.copied name slices : Reference n t)).run m =
    (fun s => (.array (.window (Tensor.ofSpan c s m).1.span), (Tensor.ofSpan c s m).2)) <$>
      w.view t n name slices := by
  simp [resolve]

end

theorem grows_resolve [Numerics] {a : Reference n t} {m : Memory} {r : Leaf n t × Memory}
    (ok : (w.resolve c a).run m = .ok r) : m.Grows r.2 := by
  cases a with
  | scalar v =>
    obtain rfl := Except.ok.inj ok
    exact .refl m
  | tensor name =>
    rw [run_resolve_tensor] at ok
    obtain ⟨_, _, rfl⟩ := Outcome.map_eq_ok_iff.1 ok
    exact .refl m
  | view name slices =>
    rw [run_resolve_view] at ok
    obtain ⟨_, _, rfl⟩ := Outcome.map_eq_ok_iff.1 ok
    exact .refl m
  | copied name slices =>
    rw [run_resolve_copied] at ok
    obtain ⟨s, _, rfl⟩ := Outcome.map_eq_ok_iff.1 ok
    exact (Tensor.made_ofSpan c s m).grows

theorem grows_expr [Numerics] {e : Term (Reference n) t} {r : Expr n t × Memory}
    (ok : w.expr c e = .ok r) :
    w.memory.Grows r.2 :=
  Term.advances_traverse (f := w.resolve c) (R := Memory.Grows) .trans (fun _ => grows_resolve) ok

theorem tensor_of_operand {target : Target} {x : Tensor t n}
    (found : w.operand t n target = .ok (.tensor x)) : w.tensor t n target.name = .ok x := by
  unfold operand at found
  split at found
  · obtain ⟨y, known, same⟩ := Outcome.bind_eq_ok_iff.1 found
    cases same
    exact known
  · obtain ⟨s, _, same⟩ := Outcome.bind_eq_ok_iff.1 found
    cases same

section
variable (kept : w.Kept)
include kept

theorem Kept.tensor {x : Tensor t n} (found : w.tensor t n name = .ok x) : x.Kept w.memory :=
  kept name ⟨x⟩ (tensor_eq_ok_iff.1 found)

theorem Kept.create [Numerics] {space : Space} {contents : Contents n t}
    (ok : w.create c name space contents = .ok w') : w'.Kept := by
  cases contents with
  | unshaped =>
    obtain rfl := Except.ok.inj ok
    exact kept.put (Tensor.made_empty space .zeros w.memory) name
  | unspecified s =>
    obtain rfl := Except.ok.inj ok
    exact kept.put (Tensor.made_empty space s w.memory) name
  | repeated s v =>
    obtain rfl := Except.ok.inj ok
    exact kept.put (Tensor.made_full c space s v w.memory) name
  | listed s data => exact kept.withTensor (fun _ => Tensor.made_ofList) ok
  | nested data => exact kept.withTensor (fun _ => Tensor.made_ofNested) ok
  | value e =>
    obtain ⟨⟨e, m⟩, resolved, ok⟩ := Outcome.bind_eq_ok_iff.1 ok
    have grows := grows_expr resolved
    refine kept.withTensor (fun y made => ?_) ok
    have made := Tensor.made_ofExpr made
    exact ⟨made.kept, grows.trans made.grows⟩

theorem Kept.derive [Numerics] {source : String} {how : Derivation}
    (ok : w.derive c name source how = .ok w') : w'.Kept := by
  obtain ⟨x, found, ok⟩ := Outcome.bind_eq_ok_iff.1 ok
  have known := kept source x (find_eq_ok_iff.1 found)
  cases how with
  | clone =>
    obtain rfl := Except.ok.inj ok
    exact kept.put known.clone name
  | emptyLike =>
    obtain rfl := Except.ok.inj ok
    exact kept.put (Tensor.made_empty _ _ w.memory) name
  | zerosLike =>
    obtain rfl := Except.ok.inj ok
    exact kept.put (Tensor.made_full c _ _ _ w.memory) name
  | toSpace space => exact kept.withTensor (fun _ => Tensor.made_toSpace) ok
  | ofView slices =>
    obtain ⟨s, _, ok⟩ := Outcome.bind_eq_ok_iff.1 ok
    obtain rfl := Except.ok.inj ok
    exact kept.put (Tensor.made_ofSpan c s.span w.memory) name
  | take =>
    obtain rfl := Except.ok.inj ok
    obtain ⟨taken, left⟩ := known.take
    have emptied : (w.put source x.tensor.take.2).Kept :=
      kept.put (r := (x.tensor.take.2, w.memory)) ⟨left, .refl _⟩ source
    exact emptied.put (r := (x.tensor.take.1, w.memory)) ⟨taken, .refl _⟩ name

theorem Kept.assign [Numerics] (c : ExecConfig) (target : Target) (e : Term (Reference n) t) :
    (w.assign c target e).2.Kept := by
  unfold Workspace.assign
  split
  · exact kept
  · exact kept
  · rename_i x e m found resolved
    have grows := grows_expr resolved
    have made := ((kept.tensor (tensor_of_operand found)).mono grows).assign c e
    split
    · rename_i done
      rw [done] at made
      exact kept.put ⟨made.kept, grows.trans made.grows⟩ target.name
    · rename_i done
      rw [done] at made
      exact kept.put ⟨made.kept, grows.trans made.grows⟩ target.name
  · rename_i s e m found resolved
    have grows := grows_expr resolved
    split
    · rename_i done
      exact kept.mono (grows.trans (Span.grows_assign done))
    · exact kept

theorem Kept.update [Numerics] {op : BinaryOp} {target : Target} {e : Term (Reference n) t}
    (ok : w.update c op target e = .ok w') : w'.Kept := by
  obtain ⟨into, _, ok⟩ := Outcome.bind_eq_ok_iff.1 ok
  obtain ⟨⟨e, m⟩, resolved, ok⟩ := Outcome.bind_eq_ok_iff.1 ok
  have grows := grows_expr resolved
  cases into with
  | tensor x => exact kept.withMemory (fun _ done => grows.trans (Tensor.grows_update done)) ok
  | window s => exact kept.withMemory (fun _ done => grows.trans (Span.grows_assign done)) ok

theorem Kept.fill [Numerics] {target : Target} {v : t.Elem} (ok : w.fill c target v = .ok w') :
    w'.Kept := by
  obtain ⟨_, _, ok⟩ := Outcome.bind_eq_ok_iff.1 ok
  obtain ⟨into, _, ok⟩ := Outcome.bind_eq_ok_iff.1 ok
  cases into with
  | tensor x => exact kept.withMemory (fun _ => Tensor.grows_fill) ok
  | window s => exact kept.withMemory (fun _ => Span.grows_assign) ok

theorem Kept.set {target : Target} {i : Index n} {v : t.Elem} (ok : w.set target i v = .ok w') :
    w'.Kept := by
  obtain ⟨into, _, ok⟩ := Outcome.bind_eq_ok_iff.1 ok
  split at ok
  · rename_i done
    obtain rfl := Except.ok.inj ok
    exact kept.mono (Span.grows_set? done)
  · cases ok

theorem Kept.copy [Numerics] {target source : Target} {staged : Bool}
    (ok : w.copy c target source staged = .ok w') : w'.Kept := by
  obtain ⟨_, _, ok⟩ := Outcome.bind_eq_ok_iff.1 ok
  obtain ⟨into, _, ok⟩ := Outcome.bind_eq_ok_iff.1 ok
  obtain ⟨out, _, ok⟩ := Outcome.bind_eq_ok_iff.1 ok
  cases staged with
  | false => exact kept.withMemory (fun _ => Operand.grows_copy) ok
  | true =>
    rw [if_pos rfl] at ok
    split at ok
    · rename_i s _
      have grows := (Tensor.made_ofSpan c s w.memory).grows
      exact kept.withMemory (fun _ done => grows.trans (Operand.grows_copy done)) ok
    · cases ok

theorem Kept.erase (name : String) : (w.erase name).Kept := by
  intro k x found
  change (if k = name then none else w.tensor? k) = some x at found
  split at found
  · cases found
  · exact kept k x found

theorem Kept.settle {r : Except Failure Workspace} (done : ∀ w', r = .ok w' → w'.Kept) :
    (w.settle r).2.Kept := by
  cases r with
  | ok w' => exact done w' rfl
  | error fault => exact kept

-- One command, whatever it is and whether or not it succeeds.
theorem Kept.run [Numerics] (c : ExecConfig) (command : Command) : (w.run c command).2.Kept := by
  cases command with
  | create name space contents => exact kept.settle fun _ => kept.create
  | derive name source how => exact kept.settle fun _ => kept.derive
  | fullLike name source v =>
    refine kept.settle fun w' ok => ?_
    obtain ⟨x, _, ok⟩ := Outcome.bind_eq_ok_iff.1 ok
    obtain rfl := Except.ok.inj ok
    exact kept.put (Tensor.made_full c _ _ v w.memory) name
  | assign target e => exact kept.assign c target e
  | update op target e => exact kept.settle fun _ => kept.update
  | fill target v => exact kept.settle fun _ => kept.fill
  | set target i v => exact kept.settle fun _ => kept.set
  | copy target source staged => exact kept.settle fun _ => kept.copy
  | resize name s =>
    refine kept.settle fun w' ok => ?_
    obtain ⟨_, _, ok⟩ := Outcome.bind_eq_ok_iff.1 ok
    obtain ⟨x, found, ok⟩ := Outcome.bind_eq_ok_iff.1 ok
    obtain rfl := Except.ok.inj ok
    exact kept.put ((kept.tensor found).resize s) name
  | resizeDiscard name s =>
    refine kept.settle fun w' ok => ?_
    obtain ⟨_, _, ok⟩ := Outcome.bind_eq_ok_iff.1 ok
    obtain ⟨x, found, ok⟩ := Outcome.bind_eq_ok_iff.1 ok
    obtain rfl := Except.ok.inj ok
    exact kept.put ((kept.tensor found).resizeDiscard s) name
  | cloneFrom name source =>
    refine kept.settle fun w' ok => ?_
    obtain ⟨x, known, ok⟩ := Outcome.bind_eq_ok_iff.1 ok
    obtain ⟨y, found, ok⟩ := Outcome.bind_eq_ok_iff.1 ok
    obtain rfl := Except.ok.inj ok
    have sound := (kept name x (find_eq_ok_iff.1 known)).storage
    exact kept.put (Tensor.made_cloneFrom sound (kept.tensor found)) name
  | drop name => exact kept.erase name

end

theorem Kept.after [Numerics] (kept : w.Kept) (c : ExecConfig) (commands : List Command) :
    (w.after c commands).Kept := by
  induction commands generalizing w with
  | nil => exact kept
  | cons command rest ih => exact ih (kept.run c command)

theorem kept_empty : Workspace.empty.Kept := by
  intro name x found
  cases found

end Workspace

end Strided
