import Strided.Proofs.Renewal
import Strided.Proofs.Selection

/-! Writing through a window that was sliced from a tensor.

An entry of a slicing request sends different positions to different positions. So the indices of a
window lie in cells of their own, however long the chain of requests, and a write through the window
leaves the written values there and every other cell as it was.
-/

set_option autoImplicit false

namespace Strided

variable {t : DType} {n k : Nat}

namespace Slice

-- The step of a range is not 0, so it comes to no position twice.
theorem position_injective {dim : Nat} {a kept : Axis} {entry : Slice} {near : Int}
    (ok : entry.onAxis dim a = .ok (some kept, near)) {j k : Nat} (hj : j < kept.extent)
    (hk : k < kept.extent) (same : entry.position a.extent j = entry.position a.extent k) :
    j = k := by
  cases entry with
  | all | newAxis => exact same
  | index p =>
    rw [onAxis] at ok
    split at ok <;> cases ok
  | range start stop step =>
    rw [onAxis] at ok
    split at ok
    · cases ok
    · rename_i moves
      cases ok
      obtain ⟨-, first⟩ := position_range moves hj
      obtain ⟨-, second⟩ := position_range moves hk
      have scaled : (j : Int) * step = k * step := by
        rw [same, second] at first
        omega
      exact Int.ofNat_inj.1 (Int.eq_of_mul_eq_mul_right moves scaled)

theorem exists_cons_of_within {e : Nat} {es js : List Nat} (within : Radix.Within (e :: es) js) :
    ∃ j rest, js = j :: rest ∧ j < e ∧ Radix.Within es rest := by
  cases js with
  | nil => exact within.elim
  | cons j rest => exact ⟨j, rest, rfl, within.1, within.2⟩

theorem source_injective {dim : Nat} {entries : List Slice} {axes kept : List Axis}
    {distance : Int} (ok : onAxes dim entries axes = .ok (kept, distance)) {js ks : List Nat}
    (hj : Radix.Within (kept.map Axis.extent) js) (hk : Radix.Within (kept.map Axis.extent) ks)
    (same : source entries (axes.map Axis.extent) js = source entries (axes.map Axis.extent) ks) :
    js = ks := by
  induction entries generalizing dim axes kept distance js ks with
  | nil => exact same
  | cons entry entries ih =>
    by_cases axis : entry = newAxis
    · subst axis
      obtain ⟨⟨rest, far⟩, found, ok⟩ := Outcome.bind_eq_ok_iff.1 ok
      obtain ⟨rfl, rfl⟩ := Prod.mk.inj (Except.ok.inj ok)
      obtain ⟨j, js, rfl, first, hj⟩ := exists_cons_of_within hj
      obtain ⟨k, ks, rfl, second, hk⟩ := exists_cons_of_within hk
      -- The new dimension has one position.
      have one : j < 1 := first
      have other : k < 1 := second
      rw [ih found hj hk same, Nat.lt_one_iff.1 one, Nat.lt_one_iff.1 other]
    · cases axes with
      | nil => cases entry <;> simp_all [onAxes]
      | cons a axes =>
        rw [onAxes_cons axis] at ok
        obtain ⟨⟨head, near⟩, first, ok⟩ := Outcome.bind_eq_ok_iff.1 ok
        obtain ⟨⟨rest, far⟩, found, ok⟩ := Outcome.bind_eq_ok_iff.1 ok
        obtain ⟨rfl, rfl⟩ := Prod.mk.inj (Except.ok.inj ok)
        obtain ⟨extent, -⟩ := onAxis_eq_ok first
        rw [List.map_cons, source_cons axis, source_cons axis, ← extent] at same
        cases head with
        | none => exact ih found hj hk (List.cons.inj same).2
        | some kept =>
          obtain ⟨j, js, rfl, near, hj⟩ := exists_cons_of_within hj
          obtain ⟨k, ks, rfl, far, hk⟩ := exists_cons_of_within hk
          obtain ⟨place, rest⟩ := List.cons.inj same
          rw [position_injective first near far place, ih found hj hk rest]

end Slice

theorem Layout.slice_injective {m : Nat} {l : Layout n} {l' : Layout m} {entries : List Slice}
    {distance : Int} (ok : l.slice entries m = .ok (l', distance)) {i j : Index m}
    (hi : l'.shape.Contains i) (hj : l'.shape.Contains j)
    (same : Slice.source entries l.shape.toList i.toList =
      Slice.source entries l.shape.toList j.toList) : i = j := by
  obtain ⟨kept, found, shape, -⟩ := slice_eq_ok ok
  rw [Shape.contains_iff_within, shape] at hi hj
  rw [← extents_axes] at same
  exact Vector.toList_inj.1 (Slice.source_injective found hi hj same)

namespace Span

/-- The elements of a window are elements of an array: the one at an index is that at the index
that is selected for it, and no element is selected twice. -/
structure Picks (s : Span t n) (r : Span t k) (select : Index k → Index n) : Prop where
  space : r.space = s.space
  inside : ∀ i, r.shape.Contains i → s.shape.Contains (select i)
  cell : ∀ i, r.shape.Contains i → r.cell i = s.cell (select i)
  distinct : ∀ i j, r.shape.Contains i → r.shape.Contains j → select i = select j → i = j

section
variable {s : Span t n} {r : Span t k} {select : Index k → Index n}

theorem Picks.refl (s : Span t n) : s.Picks s id :=
  ⟨rfl, fun _ inside => inside, fun _ _ => rfl, fun _ _ _ _ same => same⟩

theorem Picks.trans (first : s.Picks r select) {j : Nat} {q : Span t j}
    {next : Index j → Index k} (second : r.Picks q next) : s.Picks q (select ∘ next) where
  space := second.space.trans first.space
  inside i within := first.inside _ (second.inside i within)
  cell i within := (second.cell i within).trans (first.cell _ (second.inside i within))
  distinct i j hi hj same :=
    second.distinct i j hi hj
      (first.distinct _ _ (second.inside i hi) (second.inside j hj) same)

theorem Picks.injective (picks : s.Picks r select) (injective : s.layout.Injective) :
    r.layout.Injective := by
  intro i j hi hj same
  have cells : s.cell (select i) = s.cell (select j) := by
    rw [← picks.cell i hi, ← picks.cell j hj, cell_inj]
    exact same
  exact picks.distinct i j hi hj
    (injective _ _ (picks.inside i hi) (picks.inside j hj) (cell_inj.1 cells))

theorem Picks.backed (picks : s.Picks r select) {m : Memory} (backed : s.Backed m) :
    r.Backed m := by
  intro i inside
  rw [picks.cell i inside]
  exact backed _ (picks.inside i inside)

theorem exists_picks_slice {entries : List Slice} (ok : s.slice entries k = .ok r) :
    ∃ select, s.Picks r select ∧ ∀ i, r.shape.Contains i →
      (select i).toList = Slice.source entries s.shape.toList i.toList := by
  obtain ⟨⟨layout, distance⟩, sliced, ok⟩ := Outcome.bind_eq_ok_iff.1 ok
  obtain rfl := Except.ok.inj ok
  obtain ⟨-, selects⟩ := Layout.slice_selects sliced
  choose! select found inside offset using selects
  refine ⟨select, ⟨rfl, inside, fun i within => ?_, fun i j hi hj same => ?_⟩, found⟩
  · rw [cell, cell, Address.shift_shift, offset i within]
  · refine Layout.slice_injective sliced hi hj ?_
    rw [← found i hi, ← found j hj, same]

end

end Span

namespace AnySpan

variable {s r : AnySpan t} {steps : List SliceStep}

-- Every request of a chain selects from what the ones before it selected.
theorem exists_picks_sliceAll (ok : s.sliceAll steps = .ok r) :
    ∃ select, s.span.Picks r.span select := by
  induction steps generalizing s with
  | nil =>
    obtain rfl := Except.ok.inj ok
    exact ⟨id, .refl s.span⟩
  | cons step rest ih =>
    obtain ⟨next, first, ok⟩ := Outcome.bind_eq_ok_iff.1 ok
    obtain ⟨select, picks, -⟩ := Span.exists_picks_slice first
    obtain ⟨later, others⟩ := ih ok
    exact ⟨select ∘ later, picks.trans others⟩

theorem rank_sliceAll (ok : s.sliceAll steps = .ok r) :
    r.rank = (steps.getLast?.map SliceStep.rank).getD s.rank := by
  induction steps generalizing s with
  | nil =>
    obtain rfl := Except.ok.inj ok
    rfl
  | cons step rest ih =>
    obtain ⟨next, -, ok⟩ := Outcome.bind_eq_ok_iff.1 ok
    rw [ih ok, List.getLast?_cons]
    cases rest.getLast? <;> rfl

end AnySpan

namespace Span

/-- What a window can be assigned: arrays that are live, lie in its space and stretch to its
shape. -/
structure Accepts (s : Span t n) (e : Expr n t) : Prop where
  live : e.Live
  home : e.LivesIn s.space
  fits : ∀ p ∈ e.parts, p.Stretches s.shape

section
variable {c : ExecConfig} {s : Span t n} {e : Expr n t} {m m' : Memory}

-- The checks are made of the expression as a whole, and come to one condition on every array.
theorem accepts_iff :
    s.Accepts e ↔
      ∃ p, e.shape = .ok p ∧ p.broadcastsTo s.shape = .ok () ∧ e.LivesIn s.space := by
  constructor
  · intro accepts
    obtain ⟨p, join⟩ := Shape.exists_isJoin accepts.fits
    have joined := Term.shape_eq_ok_iff.2 ⟨accepts.live, join⟩
    have fits := Shape.broadcastsTo_eq_ok_iff.2 (join.least accepts.fits)
    exact ⟨p, joined, fits, accepts.home⟩
  · rintro ⟨p, joined, fits, home⟩
    obtain ⟨live, join⟩ := Term.shape_eq_ok_iff.1 joined
    have below := Shape.broadcastsTo_eq_ok_iff.1 fits
    exact ⟨live, home, fun q member => (join.upper q member).trans below⟩

theorem Accepts.assign [Numerics] (valid : c.Valid) (accepts : s.Accepts e) (m : Memory) :
    s.assign c e m = .ok (launch c s (e.lower s.shape) m) := by
  obtain ⟨p, joined, fits, home⟩ := accepts_iff.1 accepts
  exact assign_of_stretches valid s m joined home (Shape.broadcastsTo_eq_ok_iff.1 fits)

theorem accepts_of_assign [Numerics] (ok : s.assign c e m = .ok m') : s.Accepts e := by
  obtain ⟨p, joined, ok⟩ := Outcome.bind_eq_ok_iff.1 ok
  obtain ⟨_, home, ok⟩ := Outcome.bind_eq_ok_iff.1 ok
  obtain ⟨_, fits, -⟩ := Outcome.bind_eq_ok_iff.1 ok
  exact accepts_iff.2 ⟨p, joined, fits, Term.checkSpace_eq_ok_iff.1 home⟩

theorem accepts_scalar (s : Span t n) (v : t.Elem) : s.Accepts (.leaf (.scalar v)) where
  live a member := by
    rw [List.mem_singleton.1 member]
    trivial
  home a member := by
    rw [List.mem_singleton.1 member]
    trivial
  fits p member := by
    rw [List.mem_singleton.1 member]
    exact fun d => Or.inr (Shape.extent_ofFn _ d)

-- The window itself always fits, so what it is combined with decides.
theorem accepts_update_iff (op : BinaryOp) :
    s.Accepts (.binary op (.leaf (.array (.window s))) e) ↔ s.Accepts e := by
  constructor
  · intro accepts
    exact ⟨fun a member => accepts.live a (List.mem_cons_of_mem _ member),
      fun a member => accepts.home a (List.mem_cons_of_mem _ member),
      fun p member => accepts.fits p (List.mem_cons_of_mem _ member)⟩
  · intro accepts
    exact ⟨List.forall_mem_cons.2 ⟨trivial, accepts.live⟩,
      List.forall_mem_cons.2 ⟨rfl, accepts.home⟩,
      List.forall_mem_cons.2 ⟨Shape.Stretches.refl _, accepts.fits⟩⟩

theorem elementwise_update (injective : s.layout.Injective)
    (elementwise : (e.lower s.shape).Elementwise s) (op : BinaryOp) :
    ((Term.binary op (.leaf (.array (.window s))) e).lower s.shape).Elementwise s := by
  intro i j hi hj read
  rcases List.mem_cons.1 read with itself | read
  · have same : s.cell j = (s.broadcastTo s.shape).cell i := (Prod.mk.inj itself).2
    rw [broadcastTo_self] at same
    exact (injective j i hj hi (cell_inj.1 same)).symm
  · exact elementwise i j hi hj read

theorem read_mono (backed : s.Backed m) (all : m.Extends m') {i : Index n}
    (inside : s.shape.Contains i) : s.read m' i = s.read m i := by
  have found := all t _ _ (backed.read?_cell inside)
  rw [read, Memory.read, found, Option.getD_some]

theorem valueAt_self (s : Span t n) (m : Memory) (i : Index n) :
    Leaf.valueAt m s.shape i (.array (.window s)) = s.read m i := by
  rw [Leaf.valueAt, Operand.span, Shape.narrow_self]

end

end Span

/-- A write to an array: of one value, of the values of an expression, or of one element. -/
inductive Writing (n : Nat) (t : DType) where
  | fill (v : t.Elem)
  | assign (e : Term (Reference n) t)
  | update (op : BinaryOp) (e : Term (Reference n) t)
  | set (i : Index n) (v : t.Elem)

namespace Writing

def command (target : Target) : Writing n t → Command
  | fill v => .fill target v
  | assign e => .assign target e
  | update op e => .update op target e
  | set i v => .set target i v

def Reaches (i : Index n) : Writing n t → Prop
  | set j _ => i = j
  | _ => True

variable [Numerics]

/-- An element of the window is read for its own index only. -/
def Elementwise (w : Workspace) (c : ExecConfig) (s : Span t n) : Writing n t → Prop
  | assign e | update _ e => ∀ e' m, w.expr c e = .ok (e', m) → (e'.lower s.shape).Elementwise s
  | fill _ | set _ _ => True

/-- What can be written to a window, and the value for each index. -/
inductive Accepted (w : Workspace) (c : ExecConfig) (s : Span t n) :
    Writing n t → (Index n → t.Elem) → Prop where
  | fill (v : t.Elem) : Accepted w c s (.fill v) fun _ => v
  | assign {e : Term (Reference n) t} {e' : Expr n t} {m : Memory}
      (resolved : w.expr c e = .ok (e', m)) (accepts : s.Accepts e') :
      Accepted w c s (.assign e) fun i => e'.eval (Leaf.valueAt m s.shape i)
  | update {op : BinaryOp} {e : Term (Reference n) t} {e' : Expr n t} {m : Memory}
      (resolved : w.expr c e = .ok (e', m)) (accepts : s.Accepts e') :
      Accepted w c s (.update op e) fun i =>
        op.apply (s.read w.memory i) (e'.eval (Leaf.valueAt m s.shape i))
  | set {i : Index n} (v : t.Elem) (inside : s.shape.Contains i) :
      Accepted w c s (.set i v) fun _ => v

def outcome (w : Workspace) (c : ExecConfig) (s : Span t n) :
    Writing n t → Except Failure Workspace
  | fill v => w.withMemory (s.fill c v w.memory)
  | assign e => do
    let (e, m) ← w.expr c e
    w.withMemory (s.assign c e m)
  | update op e => do
    let (e, m) ← w.expr c e
    w.withMemory (s.update c op e m)
  | set i v =>
    match s.set? i v w.memory with
    | .ok m => .ok { w with memory := m }
    | .error b => .error (.outOfBounds b)

end Writing

namespace Workspace

variable {w w' : Workspace} {c : ExecConfig}

theorem extends_resolve [Numerics] {a : Reference n t} {m : Memory} {r : Leaf n t × Memory}
    (ok : (w.resolve c a).run m = .ok r) : m.Extends r.2 := by
  cases a with
  | scalar v =>
    obtain rfl := Except.ok.inj ok
    exact .refl m
  | tensor name =>
    rw [run_resolve_tensor] at ok
    obtain ⟨_, _, rfl⟩ := Outcome.map_eq_ok_iff.1 ok
    exact .refl m
  | view name slices =>
    rw [run_resolve_view] at ok
    obtain ⟨_, _, rfl⟩ := Outcome.map_eq_ok_iff.1 ok
    exact .refl m
  | copied name slices =>
    rw [run_resolve_copied] at ok
    obtain ⟨s, _, rfl⟩ := Outcome.map_eq_ok_iff.1 ok
    exact (Tensor.renewed_ofSpan c s m).all

theorem extends_expr [Numerics] {e : Term (Reference n) t} {r : Expr n t × Memory}
    (ok : w.expr c e = .ok r) : w.memory.Extends r.2 :=
  Term.advances_traverse (f := w.resolve c) (R := Memory.Extends) .trans
    (fun _ => extends_resolve) ok

section
variable {name : String} {x : Tensor t k} {slices : List SliceStep} {s : Span t n}
  (known : w.tensor? name = some ⟨x⟩) (live : x.isMovedFrom = false)
  (sliced : AnySpan.sliceAll ⟨x.span⟩ slices = .ok ⟨s⟩)
include known sliced

theorem typeOf_sliced : w.typeOf ⟨name, some slices⟩ = .ok (t, n) := by
  have rank : n = (slices.getLast?.map SliceStep.rank).getD k := AnySpan.rank_sliceAll sliced
  rw [typeOf, find_eq_ok_iff.2 known, rank]
  cases last : slices.getLast? <;> simp [last, bind, Except.bind, pure, Except.pure]

include live

theorem operand_sliced : w.operand t n ⟨name, some slices⟩ = .ok (.window s) := by
  have viewed : x.view = .ok x.span := by simp [Tensor.view, Tensor.ensureLive, live, bind,
    Except.bind, pure, Except.pure]
  simp [operand, view, window, find_eq_ok_iff.2 known, viewed, sliced, bind, Except.bind,
    Except.mapError, pure, Except.pure]

theorem run_sliced [Numerics] (writing : Writing n t) :
    w.run c (writing.command ⟨name, some slices⟩) = w.settle (writing.outcome w c s) := by
  have found := operand_sliced known live sliced
  cases writing with
  | fill v =>
    have done : w.fill c ⟨name, some slices⟩ v = w.withMemory (s.fill c v w.memory) := by
      simp only [fill, typeOf_sliced known sliced, found, bind, Except.bind]
    rw [Writing.command, run, done]
    rfl
  | assign e =>
    simp only [Writing.command, run, assign, found, Writing.outcome]
    cases w.expr c e with
    | error fault => rfl
    | ok r =>
      simp only [bind, Except.bind, withMemory]
      cases s.assign c r.1 r.2 <;> rfl
  | update op e =>
    have done : w.update c op ⟨name, some slices⟩ e = (Writing.update op e).outcome w c s := by
      simp only [update, found, bind, Except.bind, Writing.outcome]
    rw [Writing.command, run, done]
  | set i v =>
    have done : w.set ⟨name, some slices⟩ i v = (Writing.set i v).outcome w c s := by
      simp only [set, found, bind, Except.bind, Writing.outcome, Operand.span]
      rfl
    rw [Writing.command, run, done]

end

end Workspace

namespace Writing

variable [Numerics]

/-- The memory after a write: the elements that were written have their values, and every other
cell has what it had. -/
structure Wrote (w : Workspace) (c : ExecConfig) (s : Span t n) (writing : Writing n t)
    (value : Index n → t.Elem) (m : Memory) : Prop where
  value : writing.Elementwise w c s → ∀ i, s.shape.Contains i → writing.Reaches i →
    m.read? t (s.cell i) = some (value i)
  frame : ∀ u a v, (u = t → ∀ i, s.shape.Contains i → writing.Reaches i → a ≠ s.cell i) →
    w.memory.read? u a = some v → m.read? u a = some v

theorem exists_accepted {w w' : Workspace} {c : ExecConfig} {s : Span t n} {writing : Writing n t}
    (ok : writing.outcome w c s = .ok w') :
    ∃ value, writing.Accepted w c s value := by
  cases writing with
  | fill v => exact ⟨_, .fill v⟩
  | assign e =>
    obtain ⟨⟨e, m⟩, resolved, ok⟩ := Outcome.bind_eq_ok_iff.1 ok
    cases done : s.assign c e m with
    | error fault =>
      simp only [done, Workspace.withMemory] at ok
      cases ok
    | ok m' => exact ⟨_, .assign resolved (Span.accepts_of_assign done)⟩
  | update op e =>
    obtain ⟨⟨e, m⟩, resolved, ok⟩ := Outcome.bind_eq_ok_iff.1 ok
    cases done : s.update c op e m with
    | error fault =>
      simp only [done, Workspace.withMemory] at ok
      cases ok
    | ok m' =>
      have accepts := (Span.accepts_update_iff op).1 (Span.accepts_of_assign done)
      exact ⟨_, .update resolved accepts⟩
  | set i v =>
    refine ⟨_, .set v ?_⟩
    by_contra outside
    simp only [outcome, Span.set?, Span.cell?, if_neg outside] at ok
    cases ok

theorem wrote_set {w : Workspace} {c : ExecConfig} {s : Span t n} (backed : s.Backed w.memory)
    {i : Index n} (inside : s.shape.Contains i) (v : t.Elem) :
    Wrote w c s (.set i v) (fun _ => v) (s.write w.memory i v) where
  value := by
    rintro - j within rfl
    rw [Span.write, Memory.read?_write, if_pos rfl, backed.read?_cell within]
    rfl
  frame := by
    intro u a x outside found
    by_cases same : u = t
    · subst same
      rw [Span.write, Memory.read?_write, if_neg (outside rfl i inside rfl)]
      exact found
    · rw [Span.write, Memory.read?_write_of_dtype_ne _ _ _ _ same]
      exact found

section
variable {w : Workspace} {c : ExecConfig} (valid : c.Valid) {s : Span t n}
  {writing : Writing n t} {value : Index n → t.Elem}
include valid

theorem wrote_launch (injective : s.layout.Injective) (backed : s.Backed w.memory)
    {e : Expr n t} {m : Memory} (all : w.memory.Extends m)
    (elementwise : writing.Elementwise w c s → (e.lower s.shape).Elementwise s)
    (values : ∀ i, s.shape.Contains i → e.eval (Leaf.valueAt m s.shape i) = value i)
    (everywhere : ∀ i, writing.Reaches i) :
    Wrote w c s writing value (launch c s (e.lower s.shape) m) where
  value := by
    intro apart i inside _
    rw [read?_launch valid injective (backed.mono all) (elementwise apart) inside, Term.eval_lower,
      values i inside]
  frame := by
    intro u a v outside found
    rw [read?_launch_of_ne valid fun same i inside => outside same i inside (everywhere i)]
    exact all u a v found

-- What is accepted is written.
theorem Accepted.exists_wrote (injective : s.layout.Injective) (backed : s.Backed w.memory)
    (accepted : writing.Accepted w c s value) :
    ∃ m, writing.outcome w c s = .ok { w with memory := m } ∧ Wrote w c s writing value m := by
  cases accepted with
  | fill v =>
    have done := (s.accepts_scalar v).assign valid w.memory
    refine ⟨_, congrArg w.withMemory done, ?_⟩
    exact wrote_launch valid injective backed (.refl _) (fun _ => Term.elementwise_scalar v s)
      (fun _ _ => rfl) fun _ => trivial
  | @assign _ e m resolved accepts =>
    have done := accepts.assign valid m
    refine ⟨_, ?_, wrote_launch valid injective backed (Workspace.extends_expr resolved)
      (fun apart => apart _ _ resolved) (fun _ _ => rfl) fun _ => trivial⟩
    simp only [outcome, resolved, bind, Except.bind, done, Workspace.withMemory]
  | @update op _ e m resolved accepts =>
    have all := Workspace.extends_expr resolved
    have done := ((Span.accepts_update_iff op).2 accepts).assign valid m
    refine ⟨_, ?_, wrote_launch valid injective backed all
      (fun apart => Span.elementwise_update injective (apart _ _ resolved) op) ?_
      fun _ => trivial⟩
    · simp only [outcome, resolved, bind, Except.bind, Span.update, done, Workspace.withMemory]
    · intro i inside
      rw [Term.eval, Term.eval, Span.valueAt_self, Span.read_mono backed all inside]
  | @set i v inside =>
    have done : s.set? i v w.memory = .ok (s.write w.memory i v) := by
      simp only [Span.set?, Span.cell?, if_pos inside]
      rfl
    refine ⟨s.write w.memory i v, ?_, wrote_set backed inside v⟩
    simp only [outcome, done]

end

end Writing

/-- What a write through a window of a tensor comes to, where `select` tells the elements of the
tensor that the window has. It succeeds for exactly what is accepted. Then the elements that it
reaches have their values, and the other elements, the rest of memory and the tensors themselves are
as they were. If it fails nothing has changed. -/
structure Writing.Performed [Numerics] (writing : Writing n t) (c : ExecConfig) (x : Tensor t k)
    (s : Span t n) (select : Index n → Index k) (w : Workspace) (result : Except Failure Unit)
    (w' : Workspace) : Prop where
  succeeds : result = .ok () ↔ ∃ value, writing.Accepted w c s value
  undone : ∀ fault, result = .error fault → w' = w
  tensors : w'.tensor? = w.tensor?
  values : ∀ value, writing.Accepted w c s value → writing.Elementwise w c s →
    ∀ i, s.shape.Contains i → writing.Reaches i →
      w'.memory.read? t (x.span.cell (select i)) = some (value i)
  others : ∀ j, x.shape.Contains j →
    (∀ i, s.shape.Contains i → writing.Reaches i → j ≠ select i) →
      w'.memory.read? t (x.span.cell j) = w.memory.read? t (x.span.cell j)
  elsewhere : ∀ u a v, (u = t → ∀ i, s.shape.Contains i → writing.Reaches i → a ≠ s.cell i) →
    w.memory.read? u a = some v → w'.memory.read? u a = some v

theorem Workspace.write_unbounded [Numerics] {c : ExecConfig} (valid : c.Valid) {w : Workspace}
    {name : String} {x : Tensor t k} (known : w.tensor? name = some ⟨x⟩)
    (holds : x.Holds w.memory) {slices : List SliceStep} {s : Span t n}
    (sliced : AnySpan.sliceAll ⟨x.span⟩ slices = .ok ⟨s⟩) :
    ∃ select : Index n → Index k,
      (∀ i, s.shape.Contains i →
        x.shape.Contains (select i) ∧ s.cell i = x.span.cell (select i)) ∧
      (∀ i j, s.shape.Contains i → s.shape.Contains j → s.cell i = s.cell j → i = j) ∧
      ∀ (writing : Writing n t) result w',
        w.run c (writing.command ⟨name, some slices⟩) = (result, w') →
          writing.Performed c x s select w result w' := by
  obtain ⟨select, picks⟩ := AnySpan.exists_picks_sliceAll sliced
  have injective := picks.injective holds.injective
  have backed := picks.backed holds.backed
  refine ⟨select, fun i inside => ⟨picks.inside i inside, picks.cell i inside⟩,
    fun i j hi hj same => injective i j hi hj (Span.cell_inj.1 same), ?_⟩
  intro writing result w' ran
  rw [run_sliced known holds.live sliced] at ran
  cases done : writing.outcome w c s with
  | error fault =>
    obtain ⟨rfl, rfl⟩ := Prod.mk.inj (done ▸ ran)
    have refused {value} (accepted : writing.Accepted w c s value) : False := by
      obtain ⟨m, ok, -⟩ := accepted.exists_wrote valid injective backed
      cases done.symm.trans ok
    exact {
      succeeds := ⟨nofun, fun ⟨_, accepted⟩ => (refused accepted).elim⟩
      undone := fun _ _ => rfl
      tensors := rfl
      values := fun _ accepted => (refused accepted).elim
      others := fun _ _ _ => rfl
      elsewhere := fun _ _ _ _ found => found }
  | ok after =>
    obtain ⟨rfl, rfl⟩ := Prod.mk.inj (done ▸ ran)
    obtain ⟨value, accepted⟩ := Writing.exists_accepted done
    obtain ⟨m, ok, wrote⟩ := accepted.exists_wrote valid injective backed
    obtain rfl := Except.ok.inj (done.symm.trans ok)
    have written {value} (accepted : writing.Accepted w c s value) :
        writing.Wrote w c s value m := by
      obtain ⟨m', ok', wrote⟩ := accepted.exists_wrote valid injective backed
      obtain rfl : m = m' := congrArg Workspace.memory (Except.ok.inj (ok.symm.trans ok'))
      exact wrote
    refine ⟨⟨fun _ => ⟨value, accepted⟩, fun _ => rfl⟩, nofun, rfl, ?_, ?_, wrote.frame⟩
    · intro value accepted apart i inside reached
      rw [← picks.cell i inside]
      exact (written accepted).value apart i inside reached
    · intro j inside other
      have found := holds.backed.read?_cell inside
      rw [found]
      refine wrote.frame _ _ _ (fun _ i within reached here => other i within reached ?_) found
      rw [picks.cell i within] at here
      exact holds.injective _ _ inside (picks.inside i within) (Span.cell_inj.1 here)

end Strided
