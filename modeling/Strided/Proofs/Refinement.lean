import Mathlib.Data.Option.Basic
import Strided.Proofs.Tracking

/-! Programs on named tensors refine programs on plain values.

Every tensor of a workspace tracks the value of its name, and no two tensors of one element type
share a buffer. One operation keeps it so: what it writes goes to the buffer of its destination, or
to a fresh one, and no other tensor has either of these. A run is an induction over its operations.
-/

set_option autoImplicit false

namespace Strided

open Outcome

variable {t : DType} {n : Nat}

theorem Outcome.rel_imp {α β : Type} {R S : α → β → Prop} {o : Option α} {o' : Option β}
    (rel : Option.Rel R o o') (weaker : ∀ a b, o = some a → R a b → S a b) : Option.Rel S o o' := by
  cases rel with
  | some related => exact .some (weaker _ _ rfl related)
  | none => exact .none

def AnyTensor.owner (x : AnyTensor) : DType × Base :=
  (x.dtype, x.tensor.storage.base)

inductive AnyTensor.Tracks (m : Memory) : AnyTensor → AnyValueTensor → Prop where
  | intro {t : DType} {n : Nat} {x : Tensor t (n + 1)} {p : ValueTensor t (n + 1)}
    (tracks : x.Tracks p m) : Tracks m ⟨x⟩ ⟨p⟩

theorem AnyTensor.Tracks.mono {x : AnyTensor} {p : AnyValueTensor} {m m' : Memory}
    {owner : DType × Base} (tracks : x.Tracks m p) (grows : m.Grows m')
    (rest : m.ExtendsOff owner m') (clear : x.owner = owner → owner.2 = .null) :
    x.Tracks m' p := by
  cases tracks with
  | intro tracks => exact .intro (tracks.mono grows rest clear)

theorem AnyTensor.Tracks.null_of_fresh {x : AnyTensor} {p : AnyValueTensor} {m : Memory}
    (tracks : x.Tracks m p) (fresh : m.Fresh x.owner.1 x.owner.2) : x.owner.2 = .null := by
  cases tracks with
  | intro tracks => exact tracks.null_of_fresh fresh

namespace Workspace

/-- No tensor of another name has the buffer, unless it is null. -/
def Alone (w : Workspace) (name : String) (owner : DType × Base) : Prop :=
  ∀ k y, k ≠ name → w.tensor? k = some y → y.owner = owner → owner.2 = .null

/-- The tensors track the values of their names and share no buffers. -/
structure Refines (w : Workspace) (s : ValueStore) : Prop where
  same : ∀ name, Option.Rel (AnyTensor.Tracks w.memory) (w.tensor? name) (s name)
  apart : ∀ name x, w.tensor? name = some x → w.Alone name x.owner

/-- The tensor of a name is as it was, and so are the elements in its buffer. -/
def Spares (w w' : Workspace) (name : String) : Prop :=
  w'.tensor? name = w.tensor? name ∧
    ∀ x, w.tensor? name = some x → ∀ a v, a.base = x.owner.2 →
      w.memory.read? x.dtype a = some v → w'.memory.read? x.dtype a = some v

/-- What an operation leaves: it refines the values that are left, and only the given names have
changed. -/
structure Advances (w : Workspace) (changed : String → Prop) (w' : Workspace) (s' : ValueStore) :
    Prop where
  refines : w'.Refines s'
  spares : ∀ name, ¬ changed name → w.Spares w' name

variable {w w' w'' : Workspace} {s s' : ValueStore} {c : ExecConfig} {name : String} {m : Memory}
  {changed : String → Prop}

theorem alone_null (w : Workspace) (name : String) (t : DType) : w.Alone name (t, .null) :=
  fun _ _ _ _ _ => rfl

theorem refines_empty : empty.Refines .empty :=
  ⟨fun _ => .none, fun _ _ found => nomatch found⟩

theorem put_self {x : Tensor t n} (found : w.tensor? name = some ⟨x⟩) : w.put name x = w := by
  refine congrArg (Workspace.mk w.memory) (funext fun k => ?_)
  split
  · rename_i here
    rw [here, found]
  · rfl

theorem Spares.trans (first : w.Spares w' name) (second : w'.Spares w'' name) :
    w.Spares w'' name := by
  refine ⟨second.1.trans first.1, fun x found a v base held => ?_⟩
  exact second.2 x (first.1.trans found) a v base (first.2 x found a v base held)

theorem Advances.imp {more : String → Prop} (advances : w.Advances changed w' s')
    (wider : ∀ k, changed k → more k) : w.Advances more w' s' :=
  ⟨advances.refines, fun k other => advances.spares k fun here => other (wider k here)⟩

theorem Refines.tracked (refines : w.Refines s) {x : AnyTensor} (found : w.tensor? name = some x) :
    ∃ p, s name = some p ∧ x.Tracks w.memory p := by
  have same := refines.same name
  rw [found] at same
  generalize s name = o at same ⊢
  cases same with
  | some tracks => exact ⟨_, rfl, tracks⟩

theorem Advances.trans (first : w.Advances changed w' s) (second : w'.Advances changed w'' s') :
    w.Advances changed w'' s' :=
  ⟨second.refines, fun k other => (first.spares k other).trans (second.spares k other)⟩

-- More memory makes no difference.
theorem Refines.extended (refines : w.Refines s) (all : w.memory.Extends m) :
    w.Advances changed { w with memory := m } s where
  refines := {
    same := fun k => rel_imp (refines.same k) fun x _ _ tracks =>
      tracks.mono all.grows (all.off (x.dtype, .null)) fun _ => rfl
    apart := refines.apart }
  spares := fun _ _ => ⟨rfl, fun x _ a v _ held => all x.dtype a v held⟩

section
variable {old : Base} {r : Tensor t (n + 1) × Memory} {p : ValueTensor t (n + 1)}

-- A buffer that an operation allocates is not that of any other tensor either.
theorem Refines.alone (refines : w.Refines s) (follows : Tensor.Follows old w.memory r p)
    (alone : w.Alone name (t, old)) : w.Alone name (t, r.1.storage.base) := by
  intro k y other found same
  rcases follows.renewed.storage.base with here | fresh
  · rw [here] at same ⊢
    exact alone k y other found same
  · obtain ⟨q, _, tracks⟩ := refines.tracked found
    have none := tracks.null_of_fresh (same ▸ fresh)
    rwa [same] at none

theorem Alone.put (apart : ∀ k x, w.tensor? k = some x → w.Alone k x.owner) {x : Tensor t n}
    (alone : w.Alone name (t, x.storage.base)) :
    ∀ k y, (w.put name x).tensor? k = some y → (w.put name x).Alone k y.owner := by
  intro k y found k' y' other found' same
  rw [tensor?_put] at found found'
  split at found
  · rename_i here
    obtain rfl := Option.some.inj found
    rw [if_neg fun here' => other (here'.trans here.symm)] at found'
    exact alone k' y' (here ▸ other) found' same
  · rename_i elsewhere
    split at found'
    · obtain rfl := Option.some.inj found'
      rw [← same]
      exact alone k y elsewhere found same.symm
    · exact apart k y found k' y' other found' same

theorem Alone.spares (alone : w.Alone name (t, r.1.storage.base))
    (rest : w.memory.ExtendsOff (t, r.1.storage.base) r.2) {k : String} (elsewhere : k ≠ name) :
    w.Spares ({ w with memory := r.2 }.put name r.1) k := by
  refine ⟨if_neg elsewhere, fun x found a v base held => ?_⟩
  refine rest x.dtype a v (fun same => ?_) held
  have owner : x.owner = (t, r.1.storage.base) := by
    rw [← same, base]
    rfl
  have none := alone k x elsewhere found owner
  rw [w.memory.fresh_null x.dtype a ((congrArg Prod.snd same).trans none)] at held
  cases held

-- A tensor that an operation makes takes its name, and no other tensor has its buffer.
theorem Refines.put (refines : w.Refines s) (follows : Tensor.Follows old w.memory r p)
    (alone : w.Alone name (t, old)) :
    w.Advances (· = name) ({ w with memory := r.2 }.put name r.1) (s.put name p) := by
  have alone := refines.alone follows alone
  have grows := follows.renewed.made.grows
  have rest := follows.renewed.storage.rest
  refine ⟨⟨fun k => ?_, Alone.put (w := { w with memory := r.2 }) refines.apart alone⟩,
    fun k elsewhere => alone.spares rest elsewhere⟩
  by_cases here : k = name
  · simp only [tensor?_put, ValueStore.put, if_pos here]
    exact .some (.intro follows.tracks)
  · simp only [tensor?_put, ValueStore.put, if_neg here]
    exact rel_imp (refines.same k) fun y q found tracks =>
      tracks.mono grows rest (alone k y here found)

end

section
variable (refines : w.Refines s)
include refines

theorem Refines.alike_find : Alike (fun x p => w.tensor? name = some x ∧ x.Tracks w.memory p)
    (w.find name) (s.find name) := by
  have same := refines.same name
  rw [find, ValueStore.find]
  generalize w.tensor? name = o, s name = o' at same ⊢
  cases same with
  | some tracks => exact .ok ⟨rfl, tracks⟩
  | none => exact .error _

theorem Refines.alike_tensor : Alike (fun x p => w.tensor? name = some ⟨x⟩ ∧ x.Tracks p w.memory)
    (w.tensor t (n + 1) name) (s.tensor t (n + 1) name) := by
  refine refines.alike_find.bind fun x p ⟨found, tracks⟩ => ?_
  cases tracks with
  | @intro u k x p tracks =>
    by_cases same : u = t ∧ k + 1 = n + 1
    · obtain ⟨rfl, rank⟩ := same
      obtain rfl := Nat.succ.inj rank
      rw [dif_pos ⟨rfl, rfl⟩, dif_pos ⟨rfl, rfl⟩]
      exact .ok ⟨found, tracks⟩
    · rw [dif_neg same, dif_neg same]
      exact .error _

theorem Refines.alike_window (slices : List SliceStep) :
    Alike (fun v r => ∃ x, w.tensor? name = some x ∧
        v.Shows w.memory r.1 x.owner.2 r.2 ∧ x.dtype = t)
      (w.window t name slices) (s.window t name slices) := by
  refine refines.alike_find.bind fun x p ⟨found, tracks⟩ => ?_
  cases tracks with
  | @intro u k x p tracks =>
    by_cases same : u = t
    · subst same
      rw [dif_pos rfl, dif_pos rfl]
      refine Alike.mapError (tracks.alike_view.bind fun v content ⟨span, _, copied⟩ => ?_) _
      subst span copied
      have shows : AnySpan.Shows w.memory p.space x.storage.base ⟨x.span⟩ ⟨p.copied.window⟩ :=
        .intro tracks.shows tracks.space rfl
      rw [bind_pure_comp]
      exact (shows.sliceAll slices).map_right fun _ _ shows => ⟨_, found, shows, rfl⟩
    · rw [dif_neg same, dif_neg same]
      exact .error _

theorem Refines.alike_view (slices : List SliceStep) :
    Alike (fun v r => ∃ x, w.tensor? name = some x ∧ v.Shows r.2 w.memory ∧ v.space = r.1 ∧
        (t, v.start.base) = x.owner)
      (w.view t n name slices) (s.view t n name slices) := by
  refine (refines.alike_window slices).bind fun v r ⟨x, found, shows, dtype⟩ => ?_
  obtain ⟨space, values⟩ := r
  cases shows with
  | @intro k v values shows home base =>
    dsimp only
    by_cases rank : k = n
    · subst rank dtype
      rw [dif_pos rfl, dif_pos rfl]
      exact .ok ⟨x, found, shows, home, congrArg (Prod.mk x.dtype) base⟩
    · rw [dif_neg rank, dif_neg rank]
      exact .error _

/-- A buffer that is not null holds something. -/
def Holding (m : Memory) (owner : DType × Base) : Prop :=
  m.Fresh owner.1 owner.2 → owner.2 = .null

-- A leaf reads a tensor of the workspace in place, or a copy in a buffer of its own.
theorem Refines.alike_resolve [Numerics] (valid : c.Valid) {owner : DType × Base}
    (holding : Holding w.memory owner) {a : Reference (n + 1) t}
    (clear : ∀ k y, a.borrowed? = some k → w.tensor? k = some y → y.owner = owner →
      owner.2 = .null) (all : w.memory.Extends m) :
    Alike (fun r b => (r.1.Shows r.2 b ∧ r.1.Avoids owner) ∧ m.Extends r.2)
      ((w.resolve c a).run m) (s.resolve a) := by
  cases a with
  | scalar v => exact .ok ⟨⟨.scalar v, trivial⟩, .refl m⟩
  | tensor name =>
    rw [run_resolve_tensor, ValueStore.resolve, bind_pure_comp]
    refine refines.alike_tensor.map fun x p ⟨found, tracks⟩ => ⟨⟨?_, ?_⟩, .refl m⟩
    · exact tracks.leaf.mono all
    · exact tracks.backed.avoids fun same => clear name _ rfl found same
  | view name slices =>
    rw [run_resolve_view, ValueStore.resolve, bind_pure_comp]
    refine (refines.alike_view slices).map fun v r ⟨x, found, shows, home, base⟩ =>
      ⟨⟨?_, ?_⟩, .refl m⟩
    · have shows := shows.mono all
      exact home ▸ .live shows.backed shows
    · exact shows.backed.avoids fun same => clear name x rfl found (base.symm.trans same)
  | copied name slices =>
    rw [run_resolve_copied, ValueStore.resolve, bind_pure_comp]
    refine (refines.alike_view slices).map fun v r ⟨x, found, shows, home, base⟩ => ?_
    have renewed := Tensor.renewed_ofSpan c v m
    have copy := (shows.mono all).copy valid
    have space := Tensor.space_ofSpan c v m
    refine ⟨⟨?_, copy.backed.avoids fun same => ?_⟩, renewed.all⟩
    · have leaf : Leaf.Shows _ (.array (.window (Tensor.ofSpan c v m).1.span))
          (.array (Tensor.ofSpan c v m).1.space (some r.2)) := .live copy.backed copy
      rw [space, home] at leaf
      exact leaf
    · subst same
      exact holding (renewed.fresh.of_extends all)

theorem Refines.alike_expr [Numerics] (valid : c.Valid) {base : Base}
    (holding : Holding w.memory (t, base)) {e : Term (Reference (n + 1)) t}
    (clear : ∀ a ∈ e.leaves, ∀ k y, a.2.borrowed? = some k → w.tensor? k = some y →
      y.owner = (t, base) → base = .null) :
    Alike (fun r q => Term.Pair (fun _ => Leaf.Shows r.2) r.1 q ∧ r.1.Avoids base ∧
        w.memory.Extends r.2)
      (w.expr c e) (s.expr e) := by
  have resolved := Term.alike_traverse (R := fun m _ a b => a.Shows m b ∧ a.Avoids (t, base))
    (f := w.resolve c) (g := s.resolve)
    (fun all _ _ _ ⟨shows, avoids⟩ => ⟨shows.mono all, avoids⟩) (.refl w.memory)
    fun a member m all => refines.alike_resolve valid holding (clear a member) all
  refine resolved.imp fun r q ⟨pair, all⟩ => ⟨pair.imp fun _ _ _ => And.left, ?_, all⟩
  refine Term.avoids_of_leaves fun a member => ?_
  obtain ⟨_, -, _, avoids⟩ := pair.of_mem_leaves a member
  exact avoids

-- The destination of the expression is not among the tensors that it reads in place.
theorem Refines.alike_written [Numerics] (valid : c.Valid) {x : Tensor t (n + 1)}
    {p : ValueTensor t (n + 1)} (found : w.tensor? name = some ⟨x⟩) (tracks : x.Tracks p w.memory)
    {e : Term (Reference (n + 1)) t} (separate : ∀ a ∈ e.leaves, a.2.borrowed? ≠ some name) :
    Alike (fun r q => Term.Pair (fun _ => Leaf.Shows r.2) r.1 q ∧ r.1.Avoids x.storage.base ∧
        w.memory.Extends r.2)
      (w.expr c e) (s.expr e) := by
  refine refines.alike_expr valid tracks.null_of_fresh fun a member k y read known same => ?_
  have other : k ≠ name := fun here => separate a member (here ▸ read)
  exact refines.apart name ⟨x⟩ found k y other known same

theorem Refines.alike_withTensor {old : Base} (alone : w.Alone name (t, old))
    {r : Except Error (Tensor t (n + 1) × Memory)} {p : Except Error (ValueTensor t (n + 1))}
    (alike : Alike (fun r p => Tensor.Follows old w.memory r p) r p) :
    Alike (w.Advances (· = name)) (w.withTensor name r) (s.put name <$> p.mapError .error) := by
  cases alike with
  | ok follows => exact .ok (refines.put follows alone)
  | error fault => exact .error _

-- The tensor of a name is written in place.
theorem Refines.written {x : Tensor t (n + 1)} (found : w.tensor? name = some ⟨x⟩)
    {p : ValueTensor t (n + 1)} (follows : Tensor.Follows x.storage.base w.memory (x, m) p) :
    w.Advances (· = name) { w with memory := m } (s.put name p) := by
  have same : { w with memory := m }.put name x = { w with memory := m } := put_self found
  have advances := refines.put follows (refines.apart name _ found)
  exact same ▸ advances

theorem Refines.alike_withMemory {x : Tensor t (n + 1)} (found : w.tensor? name = some ⟨x⟩)
    {r : Except Error Memory} {p : Except Error (ValueTensor t (n + 1))}
    (alike : Alike (fun m p => Tensor.Follows x.storage.base w.memory (x, m) p) r p) :
    Alike (w.Advances (· = name)) (w.withMemory r) (s.put name <$> p.mapError .error) := by
  cases alike with
  | ok follows => exact .ok (refines.written found follows)
  | error fault => exact .error _

theorem Refines.alike_create [Numerics] (valid : c.Valid) (space : Space)
    (contents : Contents (n + 1) t) :
    Alike (w.Advances (· = name)) (w.create c name space contents)
      (s.put name <$> s.contents space contents) := by
  have alone := w.alone_null name t
  cases contents with
  | unshaped => exact .ok (refines.put (Tensor.follows_new space w.memory) alone)
  | unspecified shape => exact .ok (refines.put (Tensor.follows_empty space shape w.memory) alone)
  | repeated shape v =>
    exact .ok (refines.put (Tensor.follows_full space w.memory valid shape v) alone)
  | listed shape data =>
    exact refines.alike_withTensor alone (Tensor.alike_ofList space w.memory shape data)
  | nested data =>
    exact refines.alike_withTensor alone (Tensor.alike_ofNested space w.memory data)
  | value e =>
    rw [ValueStore.contents, map_bind]
    refine (refines.alike_expr valid (fun _ => rfl) fun _ _ _ _ _ _ _ => rfl).bind
      fun ⟨e, m⟩ q ⟨pair, avoids, all⟩ => ?_
    have extended : w.Advances (· = name) { w with memory := m } s := refines.extended all
    have made := extended.refines.alike_withTensor (alone_null _ name t)
      (Tensor.alike_ofExpr space m valid pair avoids)
    exact made.imp fun _ _ => extended.trans

theorem Refines.alike_take [Numerics] {source : String} :
    Alike (w.Advances fun k => k = name ∨ k = source) (w.derive c name source .take)
      (s.apply (.take name source)) := by
  refine refines.alike_find.bind fun x p ⟨found, tracks⟩ => ?_
  cases tracks with
  | @intro t n x p tracks =>
    obtain ⟨taken, left⟩ := tracks.take
    have emptied : w.Advances (· = source) (w.put source x.take.2) (s.put source p.movedFrom) :=
      refines.put left (w.alone_null source t)
    -- The buffer is no longer that of the source.
    have alone : (w.put source x.take.2).Alone name (t, x.storage.base) := by
      intro k y other found' same
      rw [tensor?_put] at found'
      split at found'
      · obtain rfl := Option.some.inj found'
        exact (congrArg Prod.snd same).symm
      · exact refines.apart source ⟨x⟩ found k y ‹_› found' same
    have moved := emptied.refines.put taken alone
    exact .ok ((emptied.imp fun _ => Or.inr).trans (moved.imp fun _ => Or.inl))

theorem Refines.alike_clone [Numerics] {source : String} :
    Alike (w.Advances (· = name)) (w.derive c name source .clone)
      (s.apply (.clone name source)) := by
  refine refines.alike_find.bind fun x p ⟨_, tracks⟩ => ?_
  cases tracks with
  | intro tracks => exact .ok (refines.put tracks.clone (w.alone_null name _))

/-- A step and the same step on values: the outcomes are equal, and what is left still refines. -/
structure Answers (w : Workspace) (changed : String → Prop)
    (r : Except Failure Unit × Workspace) (r' : Except Failure Unit × ValueStore) : Prop where
  outcome : r.1 = r'.1
  advances : w.Advances changed r.2 r'.2

theorem Refines.settle {r : Except Failure Workspace} {r' : Except Failure ValueStore}
    (alike : Alike (w.Advances changed) r r') : w.Answers changed (w.settle r) (s.settle r') := by
  cases alike with
  | ok advances => exact ⟨rfl, advances⟩
  | error fault => exact ⟨rfl, refines.extended (.refl w.memory)⟩

theorem Refines.cloneFrom [Numerics] {source : String} :
    w.Answers (· = name) (w.run c (.cloneFrom name source)) (s.step (.cloneFrom name source)) := by
  refine refines.settle (refines.alike_find.bind fun x p ⟨found, tracks⟩ => ?_)
  cases tracks with
  | @intro t n x p tracks =>
    refine refines.alike_tensor.bind fun y q ⟨_, known⟩ => .ok ?_
    exact refines.put (Tensor.follows_cloneFrom tracks.kept.storage tracks.owned tracks.space known)
      (refines.apart name _ found)

theorem Refines.alike_renew {make : {t : DType} → Tensor t (n + 1) → Tensor t (n + 1) × Memory}
    {value : {t : DType} → ValueTensor t (n + 1) → ValueTensor t (n + 1)}
    (follows : ∀ {t : DType} {x : Tensor t (n + 1)} {p : ValueTensor t (n + 1)},
      x.Tracks p w.memory → Tensor.Follows x.storage.base w.memory (make x) (value p)) :
    Alike (w.Advances (· = name))
      (do
        let x ← w.find name
        let x ← w.tensor x.dtype (n + 1) name
        w.withTensor name (.ok (make x)))
      (do
        let x ← s.find name
        let x ← s.tensor x.dtype (n + 1) name
        return s.put name (value x)) := by
  refine refines.alike_find.bind fun x p ⟨_, tracks⟩ => ?_
  cases tracks with
  | intro _ =>
    refine refines.alike_tensor.bind fun y q ⟨found, tracks⟩ => .ok ?_
    exact refines.put (follows tracks) (refines.apart name _ found)

theorem Refines.resize [Numerics] (shape : Shape (n + 1)) :
    w.Answers (· = name) (w.run c (.resize name shape)) (s.step (.resize name shape)) :=
  refines.settle (refines.alike_renew fun tracks => tracks.resize shape)

theorem Refines.resizeDiscard [Numerics] (shape : Shape (n + 1)) :
    w.Answers (· = name) (w.run c (.resizeDiscard name shape))
      (s.step (.resizeDiscard name shape)) :=
  refines.settle (refines.alike_renew fun tracks => tracks.resizeDiscard shape)

theorem Refines.fill [Numerics] (valid : c.Valid) (v : t.Elem) :
    w.Answers (· = name) (w.run c (.fill ⟨name, none⟩ v)) (s.step (.fill name v)) := by
  have looked : w.fill c ⟨name, none⟩ v = (do
      let x ← w.find name
      let x ← w.tensor t x.rank name
      w.withMemory (x.fill c v w.memory)) := by
    simp only [Workspace.fill, typeOf, operand, bind_assoc, pure_bind]
    rfl
  refine refines.settle ?_
  rw [looked]
  refine refines.alike_find.bind fun x p ⟨_, tracks⟩ => ?_
  cases tracks with
  | intro _ =>
    refine refines.alike_tensor.bind fun y q ⟨found, tracks⟩ => ?_
    exact refines.alike_withMemory found (tracks.alike_fill valid v)

theorem Refines.set [Numerics] (i : Index (n + 1)) (v : t.Elem) :
    w.Answers (· = name) (w.run c (.set ⟨name, none⟩ i v)) (s.step (.set name i v)) := by
  refine refines.settle ?_
  simp only [Workspace.set, operand, bind_assoc, pure_bind]
  refine refines.alike_tensor.bind fun x p related => ?_
  obtain ⟨found, tracks⟩ := related
  have written := tracks.alike_set i v
  simp only [Operand.span]
  generalize x.span.set? i v w.memory = r, p.set i v = r' at written ⊢
  cases written with
  | ok follows => exact .ok (refines.written found follows)
  | error b => exact .error _

theorem Refines.update [Numerics] (valid : c.Valid) (op : BinaryOp) {e : Term (Reference (n + 1)) t}
    (separate : ∀ a ∈ e.leaves, a.2.borrowed? ≠ some name) :
    w.Answers (· = name) (w.run c (.update op ⟨name, none⟩ e)) (s.step (.update op name e)) := by
  have looked : w.update c op ⟨name, none⟩ e = (do
      let x ← w.tensor t (n + 1) name
      let (e, m) ← w.expr c e
      w.withMemory (x.update c op e m)) := by
    simp only [Workspace.update, operand, bind_assoc, pure_bind]
  refine refines.settle ?_
  rw [looked]
  refine refines.alike_tensor.bind fun x p ⟨found, tracks⟩ => ?_
  refine (refines.alike_written valid found tracks separate).bind
    fun ⟨e, m⟩ q ⟨pair, avoids, all⟩ => ?_
  have extended : w.Advances (· = name) { w with memory := m } s := refines.extended all
  have updated := extended.refines.alike_withMemory found
    ((tracks.extended all).alike_update valid op pair avoids)
  exact updated.imp fun _ _ => extended.trans

theorem Refines.assign [Numerics] (valid : c.Valid) {e : Term (Reference (n + 1)) t}
    (separate : ∀ a ∈ e.leaves, a.2.borrowed? ≠ some name) :
    w.Answers (· = name) (w.run c (.assign ⟨name, none⟩ e)) (s.step (.assign name e)) := by
  have operand : w.operand t (n + 1) ⟨name, none⟩ = .tensor <$> w.tensor t (n + 1) name := by
    rw [operand, bind_pure_comp]
  have target : Alike _ (w.tensor t (n + 1) name) (s.tensor t (n + 1) name) :=
    refines.alike_tensor
  change w.Answers _ (w.assign c ⟨name, none⟩ e) (s.settle (do
    let x ← s.tensor t (n + 1) name
    let q ← s.expr e
    s.put name <$> (x.assign q).mapError .error))
  rw [Workspace.assign, operand]
  generalize w.tensor t (n + 1) name = r, s.tensor t (n + 1) name = r' at target ⊢
  cases target with
  | error fault => exact ⟨rfl, refines.extended (.refl w.memory)⟩
  | @ok x p related =>
    obtain ⟨found, tracks⟩ := related
    have resolved := refines.alike_written valid found tracks separate
    generalize w.expr c e = r, s.expr e = r' at resolved ⊢
    cases resolved with
    | error fault => exact ⟨rfl, refines.extended (.refl w.memory)⟩
    | @ok r q related =>
      obtain ⟨e, m⟩ := r
      obtain ⟨pair, avoids, all⟩ := related
      have extended : w.Advances (· = name) { w with memory := m } s := refines.extended all
      have assigned := (tracks.extended all).assign valid pair avoids
      dsimp only [Functor.map, Except.map, bind, Except.bind]
      generalize x.assign c e m = r, p.assign q = r' at assigned ⊢
      cases assigned with
      | ok follows =>
        exact ⟨rfl, extended.trans (extended.refines.put follows (refines.apart name _ found))⟩
      | error fault =>
        have same : { w with memory := m }.put name x = { w with memory := m } := put_self found
        refine ⟨rfl, ?_⟩
        change w.Advances _ ({ w with memory := m }.put name x) s
        rw [same]
        exact extended

-- One operation, whatever it is and whether or not it succeeds.
theorem Refines.step [Numerics] (valid : c.Valid) {o : Operation} (separate : o.Separate) :
    w.Answers o.Changes (w.run c o.command) (s.step o) := by
  cases o with
  | create name space contents => exact refines.settle (refines.alike_create valid space contents)
  | take name source => exact refines.settle refines.alike_take
  | clone name source => exact refines.settle refines.alike_clone
  | cloneFrom name source => exact refines.cloneFrom
  | resize name shape => exact refines.resize shape
  | resizeDiscard name shape => exact refines.resizeDiscard shape
  | assign name e => exact refines.assign valid separate
  | update op name e => exact refines.update valid op separate
  | fill name v => exact refines.fill valid v
  | set name i v => exact refines.set i v

theorem Refines.after [Numerics] (valid : c.Valid) {operations : List Operation}
    (separate : ∀ o ∈ operations, o.Separate) :
    (w.after c (operations.map Operation.command)).Refines (s.after operations) := by
  induction operations generalizing w s with
  | nil => exact refines
  | cons o rest ih =>
    obtain ⟨first, separate⟩ := List.forall_mem_cons.1 separate
    exact ih (refines.step valid first).advances.refines separate

end

end Workspace

end Strided
