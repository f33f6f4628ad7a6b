import Strided.Proofs.Simulation

/-! Operations on a tensor, next to the same operations on its plain value.

A tensor tracks a value when it has its shape and its space, was moved from when there is no
content, and its buffer holds the content from its first cell on. What the content leaves
unspecified the buffer may fill with anything, such as elements of an earlier, larger shape.
-/

set_option autoImplicit false

namespace Strided

open Outcome

variable {t : DType} {n : Nat}

/-- From an address on, memory holds the values that are specified. -/
def Content.At (content : Content t n) (a : Address) (m : Memory) : Prop :=
  ∀ k v, content.at? k = some v → m.read? t (a.shift k) = some v

theorem Content.At.set {content : Content t n} {a : Address} {m : Memory} (held : content.At a m)
    {i : Index n} (inside : content.shape.Contains i)
    (room : (m.read? t (a.shift (content.shape.position i))).isSome) (v : t.Elem) :
    (content.set i v).At a (m.write t (a.shift (content.shape.position i)) v) := by
  intro k w given
  rw [at?_set inside] at given
  rw [Memory.read?_write]
  split at given
  · rename_i here
    obtain ⟨old, found⟩ := Option.isSome_iff_exists.1 room
    rw [here, if_pos rfl, found]
    exact given
  · rename_i other
    rw [if_neg, held k w given]
    intro same
    have cells := congrArg Address.cell same
    simp only [Address.cell_shift] at cells
    exact other (by omega)

namespace Tensor

structure Tracks (x : Tensor t n) (p : ValueTensor t n) (m : Memory) : Prop where
  kept : x.Kept m
  filled : x.storage.len = x.size
  owned : x.storage.Owned
  space : x.space = p.space
  moved : x.isMovedFrom = p.content.isNone
  shape : x.shape = p.shape
  values : p.copied.At x.storage.start m

/-- A tensor that an operation makes, as by `Renewed`, together with its plain value. -/
structure Follows (old : Base) (m : Memory) (r : Tensor t n × Memory) (p : ValueTensor t n) :
    Prop where
  renewed : Renewed old m r
  tracks : r.1.Tracks p r.2

section
variable {x : Tensor t n} {p : ValueTensor t n} {m m' : Memory}

theorem Tracks.read?_shift (tracks : x.Tracks p m) {k : Nat} (below : k < x.size) :
    (m.read? t (x.storage.start.shift k)).isSome :=
  tracks.kept.storage.read?_shift
    (Nat.lt_of_lt_of_le (tracks.filled ▸ below) tracks.kept.storage.fits)

theorem Tracks.backed (tracks : x.Tracks p m) : x.span.Backed m := by
  intro i inside
  rw [cell_of_dense tracks.kept.dense]
  exact tracks.read?_shift (Shape.position_lt_size inside)

-- Nothing can be read in a null buffer, so a tensor without a buffer is not affected by anything.
theorem Tracks.mono (tracks : x.Tracks p m) {owner : DType × Base} (grows : m.Grows m')
    (rest : m.ExtendsOff owner m') (clear : (t, x.storage.base) = owner → owner.2 = .null) :
    x.Tracks p m' :=
  { tracks with
    kept := tracks.kept.mono grows
    values := by
      intro k v given
      have found := tracks.values k v given
      refine rest t _ v (fun same => ?_) found
      have none : x.storage.base = .null := (congrArg Prod.snd same).trans (clear same)
      rw [m.fresh_null t (x.storage.start.shift k) none] at found
      cases found }

theorem Tracks.extended (tracks : x.Tracks p m) (all : m.Extends m') : x.Tracks p m' :=
  tracks.mono all.grows (all.off (t, .null)) fun _ => rfl

theorem Tracks.null_of_fresh (tracks : x.Tracks p m) (fresh : m.Fresh t x.storage.base) :
    x.storage.base = .null :=
  tracks.owned.null_of_fresh tracks.kept.storage fresh

theorem Tracks.holds (tracks : x.Tracks p m) (live : x.isMovedFrom = false) : x.Holds m :=
  tracks.kept.holds live tracks.filled

theorem Tracks.shows (tracks : x.Tracks p m) : x.span.Shows p.copied.window m where
  shape := tracks.shape
  backed := tracks.backed
  value := by
    intro i inside v given
    rw [cell_of_dense tracks.kept.dense]
    have shape : p.copied.shape = x.shape := tracks.shape.symm
    change p.copied.at? (p.copied.shape.position i) = some v at given
    exact tracks.values _ v (shape ▸ given)

theorem Tracks.follows (tracks : x.Tracks p m) : Follows x.storage.base m (x, m) p where
  renewed := ⟨⟨tracks.kept, .refl m⟩, tracks.owned, Or.inl rfl, (Memory.Extends.refl m).off _⟩
  tracks := tracks

theorem Tracks.alike_view (tracks : x.Tracks p m) :
    Alike (fun s c => s = x.span ∧ x.isMovedFrom = false ∧ p.copied = c) x.view p.view := by
  obtain ⟨space, content⟩ := p
  have moved := tracks.moved
  cases content with
  | none =>
    rw [view, ensureLive, moved]
    exact .error _
  | some c =>
    rw [view, ensureLive, moved]
    exact .ok ⟨rfl, rfl, rfl⟩

theorem Tracks.leaf (tracks : x.Tracks p m) :
    Leaf.Shows m (.array (.tensor x)) (.array p.space (p.content.map Content.window)) := by
  have shows := tracks.shows
  have live := tracks.moved
  rw [← tracks.space]
  cases given : p.content with
  | none => exact .moved (live.trans (congrArg Option.isNone given))
  | some c =>
    have copied : p.copied = c := by rw [ValueTensor.copied, given, Option.getD_some]
    exact .live (tracks.holds (live.trans (congrArg Option.isNone given))) (copied ▸ shows)

end

-- The values that an operation computes index by index.
theorem at_ofFn {x : Tensor t n} {m : Memory} (dense : x.layout = .contiguous x.shape)
    {value : Index n → Option t.Elem}
    (cells : ∀ i, x.shape.Contains i → ∀ v, value i = some v →
      m.read? t (x.span.cell i) = some v) :
    (Content.ofFn x.shape value).At x.storage.start m := by
  intro k v given
  rw [Content.at?_ofFn] at given
  split at given
  · rename_i below
    have found := cells _ (Shape.contains_unravel below) v given
    rwa [cell_of_dense dense, Shape.position_unravel below] at found
  · cases given

section
variable {x y : Tensor t (n + 1)} {p q : ValueTensor t (n + 1)} {m m' : Memory} {old : Base}
  {r : Tensor t (n + 1) × Memory}

theorem Kept.filled (kept : x.Kept m) : x.storage.len = x.size :=
  kept.len.resolve_right fun ⟨scalar, _⟩ => Nat.succ_ne_zero n scalar

theorem Renewed.follows (renewed : Renewed old m r) (space : r.1.space = p.space)
    (live : r.1.isMovedFrom = false) {c : Content t (n + 1)} (shape : r.1.shape = c.shape)
    (values : c.At r.1.storage.start r.2) : Follows old m r (p.withContent c) where
  renewed := renewed
  tracks := {
    kept := renewed.made.kept
    filled := renewed.made.kept.filled
    owned := renewed.storage.owned
    space := space
    moved := live
    shape := shape
    values := values }

-- The elements of the tensor are written, and nothing else is.
theorem Follows.written (follows : Follows old m r p) (live : r.1.isMovedFrom = false)
    (grows : r.2.Grows m') (rest : r.2.ExtendsOff (t, r.1.storage.base) m')
    {c : Content t (n + 1)} (shape : r.1.shape = c.shape) (values : c.At r.1.storage.start m') :
    Follows old m (r.1, m') (p.withContent c) :=
  (follows.renewed.then grows rest).follows follows.tracks.space live shape values

theorem follows_empty (space : Space) (s : Shape (n + 1)) (m : Memory) :
    Follows .null m (empty space s m : Tensor t (n + 1) × Memory)
      ⟨space, some (.unspecified s)⟩ := by
  refine (renewed_empty space s m).follows (p := ⟨space, none⟩) (space_empty space s m)
    (holds_empty space s m).live rfl fun k v given => ?_
  rw [Content.at?_unspecified] at given
  cases given

-- The elements at the beginning are kept, whether or not the buffer is.
theorem Tracks.resize (tracks : x.Tracks p m) (s : Shape (n + 1)) :
    Follows x.storage.base m (x.resize s m) (p.withContent (p.copied.resize s)) := by
  have sound := tracks.kept.storage
  refine (renewed_resizeKeeping sound tracks.owned s (min x.storage.len s.size)).follows
    ((Storage.space_resizeKeeping _ _ _ _).trans tracks.space)
    (Storage.released_resizeKeeping _ _ _ _) rfl fun k v given => ?_
  rw [Content.at?_resize] at given
  split at given
  · rename_i below
    have len : p.copied.shape.size = x.storage.len := by
      rw [tracks.filled]
      exact congrArg Shape.size tracks.shape.symm
    rw [len] at below
    exact (Storage.read?_resizeKeeping sound (Nat.min_le_left _ _) (Nat.min_le_right _ _)
      below).trans (tracks.values k v given)
  · cases given

theorem Tracks.resizeDiscard (tracks : x.Tracks p m) (s : Shape (n + 1)) :
    Follows x.storage.base m (x.resizeDiscard s m) (p.withContent (.unspecified s)) := by
  refine (renewed_resizeKeeping tracks.kept.storage tracks.owned s 0).follows
    ((Storage.space_resizeKeeping _ _ _ _).trans tracks.space)
    (Storage.released_resizeKeeping _ _ _ _) rfl fun k v given => ?_
  rw [Content.at?_unspecified] at given
  cases given

theorem follows_cloneFrom (sound : x.storage.Sound m) (owned : x.storage.Owned)
    (space : x.space = p.space) (source : y.Tracks q m) :
    Follows x.storage.base m (x.cloneFrom y m) (p.withContent q.copied) := by
  have renewed : Renewed x.storage.base m (x.cloneFrom y m) := {
    made := made_cloneFrom sound source.kept
    storage := Storage.renewed_cloneFrom owned y.storage m }
  refine renewed.follows ((Storage.space_resizeKeeping _ _ _ _).trans space)
    (Storage.released_resizeKeeping _ _ _ _) source.shape fun k v given => ?_
  have below : k < y.storage.len := by
    rw [source.filled]
    exact Nat.lt_of_lt_of_eq (Content.lt_size_of_at? given)
      (congrArg Shape.size source.shape.symm)
  exact (Storage.read?_cloneFrom sound source.kept.storage below).trans (source.values k v given)

theorem Tracks.clone (tracks : x.Tracks p m) :
    Follows .null m (x.clone m) (p.withContent p.copied) :=
  follows_cloneFrom (x := ⟨x.layout, .empty x.space⟩) (Storage.sound_empty x.space m) (Or.inl rfl)
    tracks.space tracks

theorem Tracks.take (tracks : x.Tracks p m) :
    Follows x.storage.base m (x.take.1, m) (p.withContent p.copied) ∧
      Follows .null m (x.take.2, m) p.movedFrom where
  left := by
    have taken := tracks.kept.take.1
    have renewed : Renewed x.storage.base m (x.take.1, m) :=
      ⟨⟨taken, .refl m⟩, tracks.owned, Or.inl rfl, (Memory.Extends.refl m).off _⟩
    exact renewed.follows tracks.space rfl tracks.shape tracks.values
  right := {
    renewed := ⟨⟨tracks.kept.take.2, .refl m⟩, Or.inl rfl, Or.inl rfl,
      (Memory.Extends.refl m).off _⟩
    tracks := {
      kept := tracks.kept.take.2
      filled := tracks.kept.take.2.filled
      owned := Or.inl rfl
      space := tracks.space
      moved := rfl
      shape := rfl
      values := by
        intro k v given
        have nothing : p.movedFrom.copied.at? k = none := Content.at?_unspecified
        rw [nothing] at given
        cases given } }

end

end Tensor

namespace Term

variable {e : Expr n t} {q : ValueExpr n t} {m : Memory}

theorem Pair.holds (pair : Pair (fun _ => Leaf.Shows m) e q) : e.Holds m := by
  intro u a member live
  obtain ⟨b, -, shows⟩ := pair.of_mem_leaves _ member
  exact shows.holds live

theorem Pair.ofExpr [Numerics] (pair : Pair (fun _ => Leaf.Shows m) e q) (target : Shape n)
    (space : Space) :
    Content.ofExpr target space q = do
      let s ← e.shape
      e.checkSpace space
      s.broadcastsTo target
      return .ofFn target fun i => q.eval? (ValueLeaf.valueAt target i) := by
  rw [Content.ofExpr, pair.shape, pair.checkSpace]

end Term

theorem Content.ofExpr_scalar [Numerics] (s : Shape n) (space : Space) (v : t.Elem) :
    Content.ofExpr s space (.leaf (.scalar v)) = .ok (.repeated s (some v)) := by
  have fits : (Shape.ones : Shape n).broadcastsTo s = .ok () :=
    Shape.broadcastsTo_eq_ok_iff.2 fun d => Or.inr (Shape.extent_ofFn _ d)
  have shape : (Term.leaf (.scalar v) : ValueExpr n t).shapeOf ValueLeaf.shape = .ok .ones := rfl
  rw [ofExpr, shape, ← ofFn_const]
  change (do Shape.ones.broadcastsTo s; return _ : Except Error (Content t n)) = _
  rw [fits]
  rfl

theorem Span.extendsOff_assign [Numerics] {c : ExecConfig} {target : Span t n} {e : Expr n t}
    {m m' : Memory} (ok : target.assign c e m = .ok m') :
    m.ExtendsOff (t, target.start.base) m' := by
  obtain ⟨_, _, ok⟩ := Outcome.bind_eq_ok_iff.1 ok
  obtain ⟨_, _, ok⟩ := Outcome.bind_eq_ok_iff.1 ok
  obtain ⟨_, _, ok⟩ := Outcome.bind_eq_ok_iff.1 ok
  obtain rfl := Except.ok.inj ok
  split
  · exact (Memory.Extends.refl m).off _
  · exact m.extendsOff_launch c target _

namespace Tensor

section
variable {c : ExecConfig} {x : Tensor t (n + 1)} {p : ValueTensor t (n + 1)} {m : Memory}
  {e : Expr (n + 1) t} {q : ValueExpr (n + 1) t}

-- An expression that reads the tensor at most where it writes.
theorem Tracks.alike_write [Numerics] (valid : c.Valid) (tracks : x.Tracks p m)
    (live : x.isMovedFrom = false) (pair : Term.Pair (fun _ => Leaf.Shows m) e q)
    (elementwise : (∀ s ∈ e.parts, s.Stretches x.shape) → (e.lower x.shape).Elementwise x.span) :
    Alike (fun m' p' => Follows x.storage.base m (x, m') p') (x.span.assign c e m)
      (p.withContent <$> Content.ofExpr x.shape x.space q) := by
  have holds := tracks.holds live
  rw [pair.ofExpr]
  refine Alike.map_right (R := fun m' content =>
    Follows x.storage.base m (x, m') (p.withContent content)) ?_ fun _ _ follows => follows
  refine (Alike.of_eq rfl).and_ok.bind fun s _ ⟨same, joined, _⟩ => ?_
  subst same
  refine (Alike.of_eq rfl).bind fun _ _ _ => ?_
  refine (Alike.of_eq rfl).and_ok.bind fun _ _ ⟨_, fits, _⟩ => .ok ?_
  have below : ∀ s ∈ e.parts, s.Stretches x.shape := fun part member =>
    ((Term.shape_eq_ok_iff.1 joined).2.upper part member).trans
      (Shape.broadcastsTo_eq_ok_iff.1 fits)
  change Follows _ m (x, if x.span.size = 0 then m else launch c x.span (e.lower x.shape) m) _
  rw [launch_or_empty valid]
  refine tracks.follows.written live (m.grows_launch c x.span _) (m.extendsOff_launch c x.span _)
    rfl (at_ofFn tracks.kept.dense fun i inside v given => ?_)
  have written := read?_launch valid holds.injective holds.backed (elementwise below) inside
  rw [written, Term.eval_lower, pair.eval below inside given]

theorem Tracks.alike_fill [Numerics] (valid : c.Valid) (tracks : x.Tracks p m) (v : t.Elem) :
    Alike (fun m' p' => Follows x.storage.base m (x, m') p') (x.fill c v m) (p.fill v) := by
  refine tracks.alike_view.bind fun s content ⟨span, live, copied⟩ => ?_
  subst span copied
  have write := tracks.alike_write valid live (.leaf (.scalar v))
    fun _ => Term.elementwise_scalar v x.span
  rw [Content.ofExpr_scalar, tracks.shape] at write
  exact write

theorem Tracks.alike_update [Numerics] (valid : c.Valid) (tracks : x.Tracks p m) (op : BinaryOp)
    (pair : Term.Pair (fun _ => Leaf.Shows m) e q) (avoids : e.Avoids x.storage.base) :
    Alike (fun m' p' => Follows x.storage.base m (x, m') p') (x.update c op e m)
      (p.update op q) := by
  refine tracks.alike_view.bind fun s content ⟨span, live, copied⟩ => ?_
  subst span copied
  -- The destination is itself the left operand: its window is not disjoint from the span written,
  -- but every element reads it only at the index that it writes.
  have itself : Leaf.Shows m (.array (.window x.span))
      (.array p.space (some p.copied.window)) := tracks.space ▸ .live tracks.backed tracks.shows
  have write := tracks.alike_write valid live (.binary op (.leaf itself) pair) fun below => by
    rw [Term.parts_binary] at below
    have beside : (e.lower x.span.shape).Beside x.span :=
      Term.Avoids.beside avoids (List.forall_mem_append.1 below).2
    exact (beside.update op).elementwise (tracks.holds live).injective
  rw [tracks.shape, tracks.space] at write
  exact write

theorem Tracks.shapeFor (tracks : x.Tracks p m) (s : Shape (n + 1)) :
    x.shapeFor s = if p.shape = .zeros then s else p.shape := by
  have shapeless : x.Shapeless ↔ p.shape = .zeros := by
    rw [← tracks.shape]
    refine ⟨fun none => none.elim tracks.kept.moved And.right, fun zeros => ?_⟩
    exact Or.inr ⟨Nat.succ_pos n, zeros⟩
  rw [Tensor.shapeFor, tracks.shape]
  by_cases zeros : p.shape = .zeros
  · rw [if_pos zeros, if_pos (shapeless.2 zeros)]
  · rw [if_neg zeros, if_neg fun none => zeros (shapeless.1 none)]

theorem Tracks.renewed_assign [Numerics] (tracks : x.Tracks p m) (c : ExecConfig)
    (e : Expr (n + 1) t) :
    Renewed x.storage.base m (x.assign c e m).2 := by
  have adopted (s : Shape (n + 1)) : Renewed x.storage.base m (x.adopt s m) := by
    rcases adopt_cases x s m with ⟨_, resized⟩ | ⟨_, _, same⟩
    · rw [resized]
      exact (tracks.resizeDiscard s).renewed
    · rw [same]
      exact tracks.follows.renewed
  unfold Tensor.assign
  split
  · exact tracks.follows.renewed
  · exact tracks.follows.renewed
  · rename_i s _ _
    dsimp only
    split
    · exact adopted s
    · rename_i done
      exact (adopted s).then (Span.grows_assign done) (Span.extendsOff_assign done)

/-- The value of a tensor after the assignment of an expression of shape `s`. -/
def assignedValue [Numerics] (x : Tensor t n) (p : ValueTensor t n) (q : ValueExpr n t)
    (s : Shape n) :
    ValueTensor t n :=
  p.withContent (.ofFn (x.shapeFor s) fun i => q.eval? (ValueLeaf.valueAt (x.shapeFor s) i))

theorem Tracks.value_assign [Numerics] (tracks : x.Tracks p m)
    (pair : Term.Pair (fun _ => Leaf.Shows m) e q) :
    p.assign q = (do
      let s ← e.shape
      e.checkSpace x.space
      s.broadcastsTo (x.shapeFor s)
      return x.assignedValue p q s) := by
  rw [ValueTensor.assign, ← pair.shape]
  cases joined : e.shape with
  | error fault => rfl
  | ok s =>
    change _ <$> Content.ofExpr _ _ q = _
    rw [pair.ofExpr, joined, ← tracks.shapeFor, tracks.space]
    simp only [map_bind, map_pure]
    rfl

theorem Tracks.assign_of_accepts [Numerics] (valid : c.Valid) (tracks : x.Tracks p m)
    (pair : Term.Pair (fun _ => Leaf.Shows m) e q) (avoids : e.Avoids x.storage.base)
    {s : Shape (n + 1)} (accepts : x.Accepts e s) :
    p.assign q = .ok (x.assignedValue p q s) ∧
      ∃ y m', x.assign c e m = (.ok (), y, m') ∧
        Follows x.storage.base m (y, m') (x.assignedValue p q s) := by
  have joined := Term.shape_eq_ok_iff.2 ⟨accepts.live, accepts.join⟩
  have fits : s.Stretches (x.shapeFor s) := by
    rw [Tensor.shapeFor]
    split
    · exact Shape.Stretches.refl s
    · exact accepts.fits.resolve_left ‹_›
  constructor
  · rw [tracks.value_assign pair, joined]
    change (do e.checkSpace x.space; s.broadcastsTo (x.shapeFor s); return _ : Except Error _) = _
    rw [Term.checkSpace_eq_ok_iff.2 accepts.home, Shape.broadcastsTo_eq_ok_iff.2 fits]
    rfl
  · have sound : x.Sound m := ⟨tracks.kept.dense, fun _ => tracks.filled, tracks.kept.storage⟩
    obtain ⟨y, m', done, assigned⟩ := accepts.assign valid sound pair.holds avoids
    have renewed := tracks.renewed_assign c e
    rw [done] at renewed
    rw [assignedValue]
    rw [← assigned.shape] at fits ⊢
    refine ⟨y, m', done, renewed.follows (assigned.space.trans tracks.space) assigned.live rfl
      (at_ofFn assigned.sound.dense fun i inside v given => ?_)⟩
    have below : ∀ part ∈ e.parts, part.Stretches y.shape := fun part member =>
      (accepts.join.upper part member).trans fits
    rw [assigned.value i inside, pair.eval below inside given]

theorem Tracks.assign_of_refuses [Numerics] (tracks : x.Tracks p m)
    (pair : Term.Pair (fun _ => Leaf.Shows m) e q) {fault : Error} (refuses : x.Refuses e fault) :
    p.assign q = .error fault := by
  rw [tracks.value_assign pair]
  cases refuses with
  | shape ill =>
    rw [ill]
    rfl
  | space joined split first away =>
    have failed := Term.checkSpace_eq_error_iff.2 ⟨_, _, _, _, split, first, away, rfl⟩
    rw [joined]
    change (do e.checkSpace x.space; _ : Except Error _) = _
    rw [failed]
    rfl
  | @fit s joined home shaped misfit =>
    have same : x.shapeFor s = x.shape := if_neg shaped
    have failed : s.broadcastsTo x.shape = .error (.shapeMismatch _ _) := if_neg misfit
    rw [joined]
    change (do e.checkSpace x.space; s.broadcastsTo (x.shapeFor s); return _ : Except Error _) = _
    rw [Term.checkSpace_eq_ok_iff.2 home, same, failed]
    rfl

/-- The outcome of an assignment and that of the assignment of values: both succeed, or both fail
with the same fault and the first leaves no trace. -/
inductive AssignedAlike (x : Tensor t n) (m : Memory) :
    Except Error Unit × Tensor t n × Memory → Except Error (ValueTensor t n) → Prop where
  | ok {y : Tensor t n} {m' : Memory} {p : ValueTensor t n}
    (follows : Follows x.storage.base m (y, m') p) : AssignedAlike x m (.ok (), y, m') (.ok p)
  | error (fault : Error) : AssignedAlike x m (.error fault, x, m) (.error fault)

theorem Tracks.assign [Numerics] (valid : c.Valid) (tracks : x.Tracks p m)
    (pair : Term.Pair (fun _ => Leaf.Shows m) e q) (avoids : e.Avoids x.storage.base) :
    AssignedAlike x m (x.assign c e m) (p.assign q) := by
  rcases accepts_or_refuses x e with ⟨s, accepts⟩ | ⟨fault, refuses⟩
  · obtain ⟨value, y, m', done, follows⟩ :=
      tracks.assign_of_accepts valid pair avoids accepts
    rw [value, done]
    exact .ok follows
  · rw [tracks.assign_of_refuses pair refuses, refuses.assign]
    exact .error fault

end

section
variable (c : ExecConfig) (space : Space) (m : Memory)

-- A new tensor has no element, and so no buffer.
theorem new_eq : (new space m : Tensor t (n + 1) × Memory) =
    (⟨.contiguous .zeros, .empty space⟩, m) := by
  have resized := Storage.resizeKeeping_of_le (Storage.empty space : Storage t) 0 0 m
    (Nat.zero_le _)
  simp only [new, empty, Storage.new, Storage.resizeDiscard, Shape.size_zeros, resized]
  rfl

theorem follows_new : Follows .null m (new space m : Tensor t (n + 1) × Memory)
    ⟨space, some (.unspecified .zeros)⟩ :=
  follows_empty space .zeros m

variable {c} in
theorem alike_ofExpr [Numerics] (valid : c.Valid) {e : Expr (n + 1) t} {q : ValueExpr (n + 1) t}
    (pair : Term.Pair (fun _ => Leaf.Shows m) e q) (avoids : e.Avoids .null) :
    Alike (fun r p' => Follows .null m r p') (ofExpr c space e m)
      (ValueTensor.assign ⟨space, some (.unspecified .zeros)⟩ q) := by
  have tracks := (follows_new (t := t) (n := n) space m).tracks
  rw [ofExpr]
  rw [new_eq] at tracks ⊢
  have assigned := tracks.assign valid pair avoids
  dsimp only at assigned ⊢
  generalize Tensor.assign c _ e m = r, ValueTensor.assign _ q = r' at assigned ⊢
  cases assigned with
  | ok follows => exact .ok follows
  | error fault => exact .error fault

variable {c} in
theorem follows_full [Numerics] (valid : c.Valid) (s : Shape (n + 1)) (v : t.Elem) :
    Follows .null m (full c space s v m) ⟨space, some (.repeated s (some v))⟩ := by
  have blank := follows_empty (t := t) space s m
  have holds := holds_empty (t := t) space s m
  rw [full, ← Content.ofFn_const]
  dsimp only
  generalize empty space s m = r at blank holds ⊢
  obtain rfl : r.1.shape = s := blank.tracks.shape
  change Follows _ m (r.1, if r.1.span.size = 0 then r.2 else launch c r.1.span _ r.2) _
  rw [launch_or_empty valid]
  refine blank.written holds.live (r.2.grows_launch c r.1.span _)
    (r.2.extendsOff_launch c r.1.span _) rfl (at_ofFn holds.dense fun i inside w given => ?_)
  obtain rfl := Option.some.inj given
  exact read?_launch valid holds.injective holds.backed (Term.elementwise_scalar v _) inside

theorem ofList_of_length {s : Shape n} {data : List t.Elem} (length : s.size = data.length) :
    ofList space s data m = .ok ((empty (t := t) space s m).1,
      (empty (t := t) space s m).2.writeRun t (empty (t := t) space s m).1.storage.start data) := by
  rw [ofList, if_pos length]
  simp only [Storage.ofList, empty, length]

theorem alike_ofList (s : Shape (n + 1)) (data : List t.Elem) :
    Alike (fun r p => Follows .null m r p) (ofList space s data m)
      (ValueStore.contents.listed space s data) := by
  by_cases length : s.size = data.length
  · have blank := follows_empty (t := t) space s m
    rw [ofList_of_length space m length, ValueStore.contents.listed, dif_pos length]
    generalize empty space s m = r at blank ⊢
    obtain rfl : r.1.shape = s := blank.tracks.shape
    refine .ok (blank.written blank.tracks.moved (r.2.grows_writeRun _ data)
      (r.2.extendsOff_writeRun r.1.storage.start data) rfl fun k v given => ?_)
    rw [Content.at?_listed] at given
    obtain ⟨below, rfl⟩ := List.getElem?_eq_some_iff.1 given
    have within : k < r.1.size := Nat.lt_of_lt_of_eq below length.symm
    exact Memory.read?_writeRun_shift below (blank.tracks.read?_shift within)
  · rw [ofList, ValueStore.contents.listed, if_neg length, dif_neg length]
    exact .error _

theorem alike_ofNested (data : Nested t.Elem (n + 1)) :
    Alike (fun r p => Follows .null m r p) (ofNested space data m)
      (do ValueStore.contents.listed space (← data.shape) (data.flatten (n + 1))) := by
  refine (Alike.of_eq rfl).bind fun s _ same => ?_
  subst same
  exact alike_ofList space m s _

end

theorem Tracks.alike_set {x : Tensor t (n + 1)} {p : ValueTensor t (n + 1)} {m : Memory}
    (tracks : x.Tracks p m) (i : Index (n + 1)) (v : t.Elem) :
    Alike (fun m' p' => Follows x.storage.base m (x, m') p') (x.span.set? i v m) (p.set i v) := by
  have checked : x.span.cell? i =
      if p.shape.Contains i then .ok (x.span.cell i) else .error ⟨i.toList, p.shape.toList⟩ := by
    rw [← tracks.shape]
    rfl
  rw [Span.set?, checked, ValueTensor.set]
  split
  · rename_i inside
    have live : x.isMovedFrom = false := by
      by_contra moved
      have none := tracks.kept.moved (by simpa using moved)
      rw [← tracks.shape, none] at inside
      have first := inside 0
      rw [Shape.zeros, Shape.extent_ofFn] at first
      exact Nat.not_lt_zero _ first
    have position : x.span.cell i = x.storage.start.shift (p.copied.shape.position i) := by
      rw [cell_of_dense tracks.kept.dense, tracks.shape]
      rfl
    have below : p.copied.shape.position i < x.size :=
      Nat.lt_of_lt_of_eq (Shape.position_lt_size inside) (congrArg Shape.size tracks.shape.symm)
    refine .ok (tracks.follows.written live (m.grows_write _ v)
      (m.extendsOff_write (x.span.cell i) v) tracks.shape ?_)
    rw [position]
    exact tracks.values.set inside (tracks.read?_shift below) v
  · exact .error _

end Tensor

end Strided
