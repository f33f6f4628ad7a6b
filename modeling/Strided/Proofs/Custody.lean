import Strided.Numerics.Standard
import Strided.Proofs.Fitting
import Strided.Proofs.MovedFrom
import Strided.Proofs.WordRuns

/-! Which tensors have their elements.

A shape of rank 0 asks for one element and cannot ask for none. So a tensor of rank 0 that was moved
from has a size that its storage does not have, and so have its clones and what is taken from it,
until a new length is asked for. The history of a name tells which tensors these are; every other
tensor is in step with its storage, and its indices have cells that are found with words.
-/

set_option autoImplicit false

namespace Strided

variable {t : DType} {n : Nat}

/-- What has become of the buffer of a tensor. -/
inductive Custody where
  /-- It has the length that was last asked for. -/
  | whole
  /-- It was taken. -/
  | left
  /-- There was none to clone or to take. -/
  | emptied
  deriving DecidableEq, Repr

namespace Custody

/-- What a clone has, or another tensor that takes the buffer. -/
def handed : Custody → Custody
  | whole => whole
  | left | emptied => emptied

/-- An assignment asks for a new length where the buffer was taken. -/
def renewed : Custody → Custody
  | left => whole
  | held => held

end Custody

/-- What has become of the buffer of a name after a command that succeeds. -/
def Command.custody (held : String → Custody) (name : String) : Command → Custody
  | derive k source .take =>
    if name = k then (held source).handed else if name = source then .left else held name
  | derive k source .clone | cloneFrom k source =>
    if name = k then (held source).handed else held name
  | create k _ _ | derive k _ _ | fullLike k _ _ | resize k _ | resizeDiscard k _ =>
    if name = k then .whole else held name
  | assign ⟨k, none⟩ _ => if name = k then (held k).renewed else held name
  | assign ⟨_, some _⟩ _ | update .. | fill .. | set .. | copy .. | drop _ => held name

/-- A command that fails changes nothing. -/
def Event.custody (held : String → Custody) (event : Event) (name : String) : Custody :=
  match event.2 with
  | .ok () => event.1.custody held name
  | .error _ => held name

def custodies (trace : List Event) : String → Custody :=
  trace.foldl Event.custody fun _ => .whole

namespace Tensor

structure Bears (x : Tensor t n) (held : Custody) : Prop where
  moved : x.isMovedFrom = true ↔ held = .left
  len : x.storage.len = if n = 0 ∧ held ≠ .whole then 0 else x.size

section
variable {x y : Tensor t n} {held : Custody} {m : Memory}

theorem Whole.bears (whole : x.Whole) : x.Bears .whole where
  moved := by simp [whole.live]
  len := by simp [whole.len]

theorem Bears.handed (bears : x.Bears held) (live : y.isMovedFrom = false)
    (len : y.storage.len = x.storage.len) (size : y.size = x.size) : y.Bears held.handed where
  moved := by cases held <;> simp [live, Custody.handed]
  len := by
    rw [len, size, bears.len]
    cases held <;> simp [Custody.handed]

theorem Bears.take (bears : x.Bears held) :
    x.take.1.Bears held.handed ∧ x.take.2.Bears .left where
  left := bears.handed rfl rfl rfl
  right := {
    moved := iff_of_true rfl rfl
    len := by
      cases n with
      | zero => rfl
      | succ n => exact (Shape.size_zeros n).symm }

-- A live tensor of rank 0 asks for no new length.
theorem Bears.adopt (bears : x.Bears held) (s : Shape n) (m : Memory) :
    (x.adopt s m).1.Bears held.renewed := by
  have renews := whole_resizeKeeping x.storage s 0 m
  unfold Tensor.adopt
  split
  · rename_i asks
    cases held with
    | whole | left => exact renews.bears
    | emptied =>
      have live : x.isMovedFrom = false := by simpa using bears.moved
      have shaped : n ≠ 0 := by
        rintro rfl
        simp [live, isUnshaped] at asks
      exact ⟨by simp [Custody.renewed, show (x.resizeDiscard s m).1.isMovedFrom = false from
        renews.live], renews.len.trans (if_neg fun none => shaped none.1).symm⟩
  · rename_i keeps
    cases held with
    | left => exact absurd (by simp [bears.moved.2 rfl]) keeps
    | whole | emptied => exact bears

theorem Bears.assign [Numerics] {e : Expr n t} {c : ExecConfig} {m' : Memory} (bears : x.Bears held)
    (done : x.assign c e m = (.ok (), y, m')) : y.Bears held.renewed := by
  rcases accepts_or_refuses x e with ⟨s, accepts⟩ | ⟨fault, refuses⟩
  · obtain ⟨_, own⟩ := accepts.exists_assign c m
    cases own.symm.trans done
    exact bears.adopt s m
  · cases refuses.assign.symm.trans done

end

end Tensor

namespace Workspace

def Bears (w : Workspace) (held : String → Custody) : Prop :=
  ∀ name x, w.tensor? name = some x → x.tensor.Bears (held name)

variable {w w' : Workspace} {c : ExecConfig} {held : String → Custody} {k : String}

theorem bears_congr (same : w'.tensor? = w.tensor?) : w'.Bears held ↔ w.Bears held := by
  rw [Bears, Bears, same]

theorem Effect.failed_same {command : Command} {r : Except Failure Unit × Workspace}
    (effect : w.Effect command r) {fault : Failure} (failed : r.1 = .error fault) :
    r.2.tensor? = w.tensor? := by
  cases effect with
  | failed same => exact same
  | within | placed | taken | dropped => cases failed

theorem Effect.same_of_not_renewed {command : Command} {r : Except Failure Unit × Workspace}
    (effect : w.Effect command r)
    (keeps : ∀ name, ¬ (command.Revives name ∨ command.Rebinds name)) :
    r.2.tensor? = w.tensor? := by
  cases effect with
  | failed same | within _ _ same => exact same
  | placed _ renewed _ => exact absurd ((renewed _).2 rfl) (keeps _)
  | taken | dropped => exact absurd (Or.inr rfl) (keeps _)

theorem bears_of_settle {r : Except Failure Workspace} (done : (w.settle r).1 = .ok ())
    (left : ∀ w', r = .ok w' → w'.Bears held) : (w.settle r).2.Bears held := by
  cases r with
  | ok w' => exact left w' rfl
  | error fault => cases done

section
variable (bears : w.Bears held)
include bears

theorem Bears.put {x : Tensor t n} {v : Custody} (own : x.Bears v) (m : Memory) :
    ({ w with memory := m }.put k x).Bears fun name => if name = k then v else held name := by
  intro name y found
  rw [tensor?_put] at found
  split at found
  · rename_i here
    obtain rfl := Option.some.inj found
    dsimp only
    rw [if_pos here]
    exact own
  · rename_i other
    dsimp only
    rw [if_neg other]
    exact bears name y found

theorem Bears.of_builds (builds : w.Builds k w') :
    w'.Bears fun name => if name = k then .whole else held name := by
  obtain ⟨t, n, r, whole, rfl⟩ := builds
  exact bears.put whole.bears r.2

theorem Bears.renew (make : {t : DType} → Tensor t n → Tensor t n × Memory)
    (whole : ∀ {t : DType} (x : Tensor t n), (make x).1.Whole)
    (ok : (do
      let x ← w.find k
      let x ← w.tensor x.dtype n k
      w.withTensor k (.ok (make x))) = .ok w') :
    w'.Bears fun name => if name = k then .whole else held name := by
  obtain ⟨_, _, ok⟩ := Outcome.bind_eq_ok_iff.1 ok
  obtain ⟨x, _, ok⟩ := Outcome.bind_eq_ok_iff.1 ok
  obtain rfl := Except.ok.inj ok
  exact bears.of_builds ⟨_, n, make x, whole x, rfl⟩

variable [Numerics]

theorem Bears.derive {source : String} {how : Derivation}
    (ok : w.derive c k source how = .ok w') :
    w'.Bears fun name => (Command.derive k source how).custody held name := by
  by_cases take : how = .take
  · subst take
    obtain ⟨x, found, ok⟩ := Outcome.bind_eq_ok_iff.1 ok
    obtain rfl := Except.ok.inj ok
    obtain ⟨taken, left⟩ := (bears source x (find_eq_ok_iff.1 found)).take
    exact (bears.put left w.memory).put taken w.memory
  · by_cases copy : how = .clone
    · subst copy
      obtain ⟨x, found, rfl⟩ := derive_clone_eq_ok_iff.1 ok
      have live : (x.tensor.clone w.memory).1.isMovedFrom = false :=
        Storage.released_resizeKeeping _ _ _ _
      have len : (x.tensor.clone w.memory).1.storage.len = x.tensor.storage.len :=
        Storage.len_resizeKeeping _ _ _ _
      exact bears.put ((bears source x found).handed live len rfl) _
    · have built := bears.of_builds (builds_derive take copy ok)
      cases how <;> first | exact built | exact absurd rfl take | exact absurd rfl copy

theorem Bears.assign {target : Target} {e : Term (Reference n) t}
    (done : (w.assign c target e).1 = .ok ()) :
    (w.assign c target e).2.Bears fun name => (Command.assign target e).custody held name := by
  obtain ⟨k, window⟩ := target
  unfold Workspace.assign at done ⊢
  split at done
  · cases done
  · cases done
  · rename_i x e m found _
    obtain rfl : window = none := window_eq_none_of_operand found
    have own := bears k ⟨x⟩ (tensor_eq_ok_iff.1 (tensor_of_operand found))
    split at done
    · rename_i y m' assigned
      exact bears.put (own.assign assigned) m'
    · cases done
  · rename_i found _
    have part : window ≠ none := window_ne_none_of_operand found
    obtain ⟨slices, rfl⟩ := Option.ne_none_iff_exists'.1 part
    split at done
    · exact bears
    · cases done

-- One command, whatever it is and whether or not it succeeds.
theorem Bears.run (c : ExecConfig) (command : Command) :
    (w.run c command).2.Bears (Event.custody held (command, (w.run c command).1)) := by
  cases done : (w.run c command).1 with
  | error fault => exact (bears_congr ((effect_run w c command).failed_same done)).2 bears
  | ok _ =>
    have within (keeps : ∀ name, ¬ (command.Revives name ∨ command.Rebinds name)) :
        (w.run c command).2.Bears held :=
      (bears_congr ((effect_run w c command).same_of_not_renewed keeps)).2 bears
    cases command with
    | create k space contents =>
      exact bears_of_settle done fun _ ok => bears.of_builds (builds_create ok)
    | derive k source how => exact bears_of_settle done fun _ => bears.derive
    | fullLike k source v =>
      refine bears_of_settle done fun _ ok => ?_
      obtain ⟨x, _, ok⟩ := Outcome.bind_eq_ok_iff.1 ok
      obtain rfl := Except.ok.inj ok
      have whole : (Tensor.full c x.tensor.space x.tensor.shape v w.memory).1.Whole :=
        Tensor.whole_empty x.tensor.space x.tensor.shape w.memory
      exact bears.of_builds ⟨_, _, _, whole, rfl⟩
    | assign target e => exact bears.assign done
    | update op target e => exact within fun _ => or_self_iff.not.2 id
    | fill target v => exact within fun _ => or_self_iff.not.2 id
    | set target i v => exact within fun _ => or_self_iff.not.2 id
    | copy target source staged => exact within fun _ => or_self_iff.not.2 id
    | resize k s =>
      exact bears_of_settle done fun _ =>
        bears.renew (fun x => x.resize s w.memory) fun x =>
          Tensor.whole_resizeKeeping x.storage s _ w.memory
    | resizeDiscard k s =>
      exact bears_of_settle done fun _ =>
        bears.renew (fun x => x.resizeDiscard s w.memory) fun x =>
          Tensor.whole_resizeKeeping x.storage s 0 w.memory
    | cloneFrom k source =>
      refine bears_of_settle done fun _ ok => ?_
      obtain ⟨x, _, ok⟩ := Outcome.bind_eq_ok_iff.1 ok
      obtain ⟨y, found, ok⟩ := Outcome.bind_eq_ok_iff.1 ok
      obtain rfl := Except.ok.inj ok
      have own := bears source ⟨y⟩ (tensor_eq_ok_iff.1 found)
      have live : (x.tensor.cloneFrom y w.memory).1.isMovedFrom = false :=
        Storage.released_resizeKeeping _ _ _ _
      have len : (x.tensor.cloneFrom y w.memory).1.storage.len = y.storage.len :=
        Storage.len_resizeKeeping _ _ _ _
      exact bears.put (own.handed live len rfl) _
    | drop k =>
      intro name x found
      change (if name = k then none else w.tensor? name) = some x at found
      split at found
      · cases found
      · exact bears name x found

end

theorem bears_after [Numerics] (c : ExecConfig) (commands : List Command) :
    (empty.after c commands).Bears (custodies (empty.trace c commands)) := by
  induction commands using List.reverseRecOn with
  | nil => exact nofun
  | append_singleton commands command ih =>
    rw [after_append_singleton, trace_append_singleton, custodies, List.foldl_concat]
    exact ih.run c command

end Workspace

/-- A tensor and its storage are in step: the size and the strides of the shape come to the same in
every build, the storage has that length, and every index has a cell in it. Only a tensor of rank 0
without a buffer has none. -/
structure Tensor.InStep (x : Tensor t n) (held : Custody) (m : Memory) : Prop where
  dense : x.layout = .contiguous x.shape
  size : x.shape.sizeSteps.Settles x.size
  strides : x.shape.defaultStridesSteps.Settles x.strides
  len : x.storage.len = if n = 0 ∧ held ≠ .whole then 0 else x.size
  capacity : x.storage.len ≤ x.storage.capacity
  cells : (n = 0 → held = .whole) → ∀ i, x.shape.Contains i →
    ∃ a, (x.span.cellSteps i).run.Settles (.ok a) ∧
      Address.InRun x.storage.start x.storage.len a ∧ (m.read? t a).isSome

theorem Tensor.Kept.inStep {x : Tensor t n} {m : Memory} {held : Custody} (kept : x.Kept m)
    (bears : x.Bears held) (addressable : x.shape.Addressable) : x.InStep held m where
  dense := kept.dense
  size := addressable.sizeSteps
  strides := by
    have own : x.strides = x.shape.defaultStrides := congrArg Layout.strides kept.dense
    rw [own]
    exact addressable.defaultStridesSteps
  len := bears.len
  capacity := kept.storage.fits
  cells filled i inside := by
    have len : x.storage.len = x.size := bears.len.trans (if_neg fun none => none.2 (filled none.1))
    have run : Address.InRun x.storage.start x.storage.len (x.span.cell i) := by
      rw [len]
      exact (exists_cell_iff kept.dense).1 ⟨i, inside, rfl⟩
    have offset : (x.layout.offsetSteps i).Settles (x.layout.offset i) := by
      rw [kept.dense]
      exact addressable.offsetSteps inside
    have cell : x.span.cell? i = .ok (x.span.cell i) := if_pos inside
    have found := Span.settles_cellSteps (s := x.span) (i := i) fun _ => offset
    rw [cell] at found
    refine ⟨x.span.cell i, found, run, Memory.read?_isSome_iff.2 ?_⟩
    obtain ⟨base, first, last⟩ := run
    have fits := kept.storage.fits
    have room := kept.storage.room
    rw [base]
    simp only [Storage.start, Address.start] at first last ⊢
    omega

namespace Workspace

/-- After a run in which every number is a word, all tensors are in step, whatever their names have
been through. -/
theorem after_in_step [Numerics] (c : ExecConfig) (commands : List Command)
    (fits : (empty.afterSteps c commands).Fits) :
    (empty.afterSteps c commands).Settles (empty.after c commands) ∧
      ∀ name x, (empty.after c commands).tensor? name = some x →
        x.tensor.InStep (custodies (empty.trace c commands) name)
          (empty.after c commands).memory := by
  have reached := unbounded_afterSteps (w := empty) (c := c) commands
  refine ⟨fits.settles reached, fun name x found => ?_⟩
  exact (kept_empty.after c commands name x found).inStep (bears_after c commands name x found)
    (addressable_empty.afterSteps commands fits _ reached name x found)

-- A pair is handed over and the tensor that is left is grown again.
def regrownPair : List Command :=
  [.create "a" .host (.listed (.ofFn fun _ => 2) [1, 2] : Contents 1 .i32), .derive "b" "a" .take,
    .resize "a" (.ofFn fun _ => 3 : Shape 1)]

theorem after_in_step_regrownPair :
    (empty.afterSteps oneThread regrownPair).Fits ∧
      ∃ w, (empty.afterSteps oneThread regrownPair).Settles w ∧
        ∃ x : Tensor .i32 1, w.tensor? "a" = some ⟨x⟩ ∧ x.storage.len = 3 ∧
          ∃ a, (x.span.cellSteps #v[2]).run.Settles (.ok a) ∧ (w.memory.read? .i32 a).isSome := by
  have fits : (empty.afterSteps oneThread regrownPair).Fits := by decide
  obtain ⟨settles, within⟩ := after_in_step oneThread regrownPair fits
  refine ⟨fits, _, settles, _, rfl, rfl, ?_⟩
  have inside : (.ofFn fun _ => 3 : Shape 1).Contains #v[2] := by decide
  obtain ⟨a, found, -, held⟩ := (within "a" _ rfl).cells nofun #v[2] inside
  exact ⟨a, found, held⟩

-- A number is handed over, and what is left without an element is cloned.
def emptiedNumber : List Command :=
  [.create "a" .host (.repeated ⟨#v[]⟩ 5 : Contents 0 .i32), .derive "b" "a" .take,
    .derive "d" "a" .clone]

theorem after_emptiedNumber :
    ∃ w, (empty.afterSteps oneThread emptiedNumber).Settles w ∧
      ∃ x y : Tensor .i32 0, w.tensor? "a" = some ⟨x⟩ ∧ w.tensor? "d" = some ⟨y⟩ ∧
        x.size = 1 ∧ x.storage.len = 0 ∧ y.isMovedFrom = false ∧ y.size = 1 ∧ y.storage.len = 0 ∧
        w.memory.read? .i32 (y.span.cell #v[]) = none :=
  ⟨_, Calculation.Fits.settles (by decide) (unbounded_afterSteps emptiedNumber),
    _, _, rfl, rfl, rfl, rfl, rfl, rfl, rfl, rfl⟩

end Workspace

end Strided
