import Strided.Proofs.Calculating
import Strided.Proofs.Sizing
import Strided.Workspace.Calculation

/-! Where numbers have no bound, the operations that calculate on words are the plain ones.

There is one equation for each operation, up to a run of commands, and each follows from those of
the operations that it calls. What is proved about the plain operations therefore holds of a
calculation as soon as every number on its way is a word.
-/

set_option autoImplicit false

namespace Strided

open Calculation (unbounded_bind unbounded_pure unbounded_run_bind unbounded_run_lift_bind
  unbounded_run_lift unbounded_run_except unbounded_run_adapt)

variable {t : DType} {n : Nat}

theorem Span.unbounded_sliceSteps (s : Span t n) (entries : List Slice) (m : Nat) :
    (s.sliceSteps entries m).run.unbounded = some (s.slice entries m) :=
  unbounded_run_bind (s.layout.unbounded_sliceSteps entries m) fun _ => rfl

theorem AnySpan.unbounded_sliceAllSteps (s : AnySpan t) (slices : List SliceStep) :
    (s.sliceAllSteps slices).run.unbounded = some (s.sliceAll slices) := by
  induction slices generalizing s with
  | nil => rfl
  | cons step rest ih =>
    exact unbounded_run_bind (s.span.unbounded_sliceSteps _ _) fun next => ih ⟨next⟩

namespace Tensor

variable {space : Space} {c : ExecConfig} {m : Memory}

@[simp] theorem unbounded_emptySteps (s : Shape n) :
    (emptySteps space s m : Calculation (Tensor t n × Memory)).unbounded =
      some (empty space s m) := by
  simp [emptySteps, empty]

@[simp] theorem unbounded_newSteps :
    (newSteps space m : Calculation (Tensor t n × Memory)).unbounded = some (new space m) :=
  unbounded_emptySteps .zeros

theorem unbounded_ofListSteps (s : Shape n) (data : List t.Elem) :
    (ofListSteps space s data m).run.unbounded = some (ofList space s data m) := by
  refine unbounded_run_lift_bind s.unbounded_sizeSteps ?_
  unfold ofList
  split
  · exact unbounded_run_lift_bind (Layout.unbounded_contiguousSteps s) rfl
  · rfl

theorem unbounded_ofNestedSteps (x : Nested t.Elem n) :
    (ofNestedSteps space x m).run.unbounded = some (ofNested space x m) :=
  unbounded_run_bind (unbounded_run_except _) fun s => unbounded_ofListSteps s _

@[simp] theorem unbounded_resizeSteps (s : Shape n) (x : Tensor t n) :
    (x.resizeSteps s m).unbounded = some (x.resize s m) := by
  simp [resizeSteps, resize]

@[simp] theorem unbounded_resizeDiscardSteps (s : Shape n) (x : Tensor t n) :
    (x.resizeDiscardSteps s m).unbounded = some (x.resizeDiscard s m) := by
  simp [resizeDiscardSteps, resizeDiscard]

@[simp] theorem unbounded_fullSteps [Numerics] (s : Shape n) (v : t.Elem) :
    (fullSteps c space s v m).unbounded = some (full c space s v m) := by
  simp only [fullSteps, unbounded_bind, unbounded_emptySteps, Option.bind_some,
    Shape.unbounded_sizeSteps, unbounded_pure]
  rfl

@[simp] theorem unbounded_adoptSteps (x : Tensor t n) (s : Shape n) :
    (x.adoptSteps s m).unbounded = some (x.adopt s m) := by
  unfold adoptSteps adopt
  split
  · exact unbounded_resizeDiscardSteps s x
  · rfl

@[simp] theorem unbounded_ofSpanSteps [Numerics] (s : Span t n) :
    (ofSpanSteps c s m).unbounded = some (ofSpan c s m) := by
  simp only [ofSpanSteps, ofSpan, unbounded_bind, unbounded_emptySteps, Option.bind_some,
    Shape.unbounded_sizeSteps, apply_ite Calculation.unbounded, apply_ite some,
    Layout.unbounded_isContiguousSteps, unbounded_pure]
  rfl

theorem unbounded_toSpaceSteps (x : Tensor t n) :
    (x.toSpaceSteps space m).run.unbounded = some (x.toSpace space m) :=
  unbounded_run_bind (unbounded_run_except _) fun _ =>
    unbounded_run_lift_bind (unbounded_emptySteps _) (unbounded_run_lift_bind
      (Shape.unbounded_sizeSteps _) rfl)

end Tensor

namespace Span

variable {c : ExecConfig} {m : Memory}

theorem unbounded_assignSteps [Numerics] (target : Span t n) (e : Expr n t) :
    (target.assignSteps c e m).run.unbounded = some (target.assign c e m) :=
  unbounded_run_bind (unbounded_run_except _) fun _ =>
    unbounded_run_bind (unbounded_run_except _) fun _ =>
    unbounded_run_bind (unbounded_run_except _) fun _ =>
    unbounded_run_lift_bind (Shape.unbounded_sizeSteps _) rfl

@[simp] theorem unbounded_toListSteps [Numerics] (s : Span t n) :
    (s.toListSteps c m).unbounded = some (s.toList c m) := by
  simp only [toListSteps, toList, unbounded_bind, Option.bind_some, Shape.unbounded_sizeSteps,
    apply_ite Calculation.unbounded, apply_ite some, Layout.unbounded_isContiguousSteps,
    unbounded_pure, Tensor.unbounded_ofSpanSteps]
  rfl

theorem unbounded_equalSteps [Numerics] {k : Nat} (a : Span t n) (b : Span t k) :
    (a.equalSteps c b m).unbounded = some (a.equal c b m) := by
  unfold equalSteps equal
  split
  · rename_i same
    simp [same]
  · rename_i other
    simp [other]

theorem unbounded_transferSteps [Numerics] (source target : Span t n) :
    (source.transferSteps c target source.size m).unbounded =
      some (source.transfer c target m) := by
  simp only [transferSteps, transfer, unbounded_bind, Option.bind_some,
    apply_ite Calculation.unbounded, apply_ite some, Layout.unbounded_isContiguousSteps,
    unbounded_pure, Tensor.unbounded_ofSpanSteps, Tensor.unbounded_emptySteps]
  rfl

theorem unbounded_cellSteps (s : Span t n) (i : Index n) :
    (s.cellSteps i).run.unbounded = some (s.cell? i) := by
  unfold cellSteps cell?
  split
  · exact unbounded_run_lift_bind (s.layout.unbounded_offsetSteps i) rfl
  · rfl

theorem unbounded_getSteps (s : Span t n) (i : Index n) :
    (s.getSteps i m).run.unbounded = some (s.get? i m) :=
  unbounded_run_bind (s.unbounded_cellSteps i) fun _ => rfl

theorem unbounded_setSteps (s : Span t n) (i : Index n) (v : t.Elem) :
    (s.setSteps i v m).run.unbounded = some (s.set? i v m) :=
  unbounded_run_bind (s.unbounded_cellSteps i) fun _ => rfl

end Span

namespace Operand

variable {c : ExecConfig} {m : Memory}

theorem unbounded_copySteps [Numerics] (source target : Operand t n) :
    (source.copySteps c target m).run.unbounded = some (source.copy c target m) := by
  refine unbounded_run_bind (unbounded_run_except _) fun origin =>
    unbounded_run_bind (unbounded_run_except _) fun into => ?_
  split
  · refine unbounded_run_lift_bind origin.shape.unbounded_sizeSteps ?_
    split
    · rename_i none
      exact congrArg some (congrArg Except.ok (if_pos none).symm)
    · rename_i some
      have moved := unbounded_run_lift (ε := Error)
        (origin.unbounded_transferSteps (c := c) (m := m) into)
      exact moved.trans (congrArg Option.some (congrArg Except.ok (if_neg some).symm))
  · rfl

theorem unbounded_equalSteps [Numerics] {k : Nat} (a : Operand t n) (b : Operand t k) :
    (a.equalSteps c b m).unbounded = some (a.equal c b m) := by
  unfold equalSteps equal
  cases a.view with
  | error fault => rfl
  | ok s =>
    cases b.view with
    | error fault => rfl
    | ok u => exact Span.unbounded_equalSteps s u

end Operand

namespace Tensor

variable {space : Space} {c : ExecConfig} {m : Memory}

variable [Numerics]

theorem unbounded_assignSteps (x : Tensor t n) (e : Expr n t) :
    (x.assignSteps c e m).unbounded = some (x.assign c e m) := by
  unfold assignSteps assign
  cases e.shape with
  | error fault => rfl
  | ok s =>
    cases e.checkSpace x.space with
    | error fault => rfl
    | ok done =>
      simp only [unbounded_bind, unbounded_adoptSteps, Option.bind_some,
        Span.unbounded_assignSteps]
      cases (x.adopt s m).1.span.assign c e (x.adopt s m).2 <;> rfl

theorem unbounded_updateSteps (op : BinaryOp) (x : Tensor t n) (e : Expr n t) :
    (x.updateSteps c op e m).run.unbounded = some (x.update c op e m) :=
  unbounded_run_bind (unbounded_run_except _) fun s => s.unbounded_assignSteps _

theorem unbounded_fillSteps (x : Tensor t n) (v : t.Elem) :
    (x.fillSteps c v m).run.unbounded = some (x.fill c v m) :=
  unbounded_run_bind (unbounded_run_except _) fun s => s.unbounded_assignSteps _

theorem unbounded_ofExprSteps (e : Expr n t) :
    (ofExprSteps c space e m).run.unbounded = some (ofExpr c space e m) := by
  have first : (newSteps space m : Calculation (Tensor t n × Memory)).unbounded =
      some (new space m) := unbounded_newSteps
  rw [ofExpr]
  generalize new space m = fresh at first ⊢
  obtain ⟨x, m₁⟩ := fresh
  refine unbounded_run_lift_bind first (unbounded_run_lift_bind (x.unbounded_assignSteps e) ?_)
  dsimp only
  rcases x.assign c e m₁ with ⟨_ | _, _, _⟩ <;> rfl

end Tensor

theorem Operand.unbounded_toListSteps [Numerics] {c : ExecConfig} {m : Memory} (a : Operand t n) :
    (a.toListSteps c m).run.unbounded = some (a.toList c m) := by
  cases a with
  | window s => exact unbounded_run_lift (Span.unbounded_toListSteps s)
  | tensor x =>
    exact unbounded_run_bind (unbounded_run_except _) fun s =>
      unbounded_run_lift (Span.unbounded_toListSteps s)

section
variable {entries : List Slice} {k : Nat}

theorem Operand.unbounded_sliceSteps (a : Operand t n) :
    (a.sliceSteps entries k).run.unbounded = some (a.slice entries k) :=
  unbounded_run_bind (unbounded_run_except _) fun s => s.unbounded_sliceSteps entries k

theorem Leaf.unbounded_sliceSteps (a : Leaf n t) :
    (a.sliceSteps entries k).run.unbounded = some (a.slice entries k) := by
  cases a with
  | array a => exact unbounded_run_bind a.unbounded_sliceSteps fun s => rfl
  | scalar v => rfl

end

/-- Actions of two kinds that come to the same, as do all that are composed of them. -/
structure Calculation.Follows {F G : Type → Type} [Monad F] [Monad G]
    (R : (α : Type) → F α → G α → Prop) : Prop where
  pure {α : Type} (a : α) : R α (pure a) (pure a)
  map {α β : Type} (f : α → β) {x : F α} {y : G α} : R α x y → R β (f <$> x) (f <$> y)
  bind {α β : Type} {x : F α} {y : G α} {f : α → F β} {g : α → G β} :
    R α x y → (∀ a, R β (f a) (g a)) → R β (x >>= f) (y >>= g)

theorem Calculation.Follows.traverse {F G : Type → Type} [Monad F] [Monad G]
    {R : (α : Type) → F α → G α → Prop} (follows : Follows R) {L M : DType → Type}
    {f : {t : DType} → L t → F (M t)} {g : {t : DType} → L t → G (M t)}
    (each : ∀ {t : DType} (a : L t), R (M t) (f a) (g a)) {t : DType} (e : Term L t) :
    R (Term M t) (e.traverse f) (e.traverse g) := by
  induction e with
  | leaf a => exact follows.map _ (each a)
  | binary op l r ihl ihr =>
    exact follows.bind ihl fun _ => follows.bind ihr fun _ => follows.pure _
  | unary op e ih => exact follows.map _ ih
  | cast t e ih => exact follows.map _ ih

section
variable {ε : Type}

theorem Calculation.follows_except :
    Follows fun α (x : ExceptT ε Calculation α) (y : Except ε α) => x.run.unbounded = some y where
  pure a := rfl
  map f x y same := by
    rw [ExceptT.run_map, unbounded_map, same]
    cases y <;> rfl
  bind first next := unbounded_run_bind first next

theorem Calculation.follows_state {σ : Type} :
    Follows fun α (x : StateT σ (ExceptT ε Calculation) α) (y : StateT σ (Except ε) α) =>
      ∀ s, (x.run s).run.unbounded = some (y.run s) where
  pure a s := rfl
  map f x y same s := by
    rw [StateT.run_map, StateT.run_map]
    exact follows_except.map _ (same s)
  bind first next s := by
    rw [StateT.run_bind, StateT.run_bind]
    exact unbounded_run_bind (first s) fun r => next r.1 r.2

end

theorem Term.unbounded_sliceSteps (e : Expr n t) (entries : List Slice) (k : Nat) :
    (e.sliceSteps entries k).run.unbounded = some (e.slice entries k) :=
  Calculation.follows_except.traverse (fun a => a.unbounded_sliceSteps) e

namespace Workspace

variable {w : Workspace} {c : ExecConfig}

theorem unbounded_windowSteps (t : DType) (name : String) (slices : List SliceStep) :
    (w.windowSteps t name slices).run.unbounded = some (w.window t name slices) := by
  refine unbounded_run_bind (unbounded_run_except _) fun x => ?_
  split
  · exact unbounded_run_adapt _ (unbounded_run_bind (unbounded_run_except _) fun s =>
      AnySpan.unbounded_sliceAllSteps _ _)
  · rfl

theorem unbounded_viewSteps (t : DType) (n : Nat) (name : String) (slices : List SliceStep) :
    (w.viewSteps t n name slices).run.unbounded = some (w.view t n name slices) := by
  refine unbounded_run_bind (unbounded_windowSteps t name slices) fun s => ?_
  split <;> rfl

theorem unbounded_run_lift_state {α : Type} {x : ExceptT Failure Calculation α}
    {y : Except Failure α} (same : x.run.unbounded = some y) (m : Memory) :
    ((liftM x : StateT Memory (ExceptT Failure Calculation) α).run m).run.unbounded =
      some ((liftM y : StateT Memory (Except Failure) α).run m) :=
  unbounded_run_bind same fun _ => rfl

theorem unbounded_resolveSteps [Numerics] (a : Reference n t) (m : Memory) :
    ((w.resolveSteps c a).run m).run.unbounded = some ((w.resolve c a).run m) := by
  cases a with
  | scalar v => rfl
  | tensor name =>
    exact Calculation.follows_state.bind (unbounded_run_lift_state (unbounded_run_except _))
      (fun _ _ => rfl) m
  | view name slices =>
    exact Calculation.follows_state.bind
      (unbounded_run_lift_state (unbounded_viewSteps t n name slices)) (fun _ _ => rfl) m
  | copied name slices =>
    refine Calculation.follows_state.bind
      (unbounded_run_lift_state (unbounded_viewSteps t n name slices)) (fun s m => ?_) m
    have copied := unbounded_run_lift_state (y := .ok (Tensor.ofSpan c s m))
      (unbounded_run_lift (Tensor.unbounded_ofSpanSteps s)) m
    exact unbounded_run_bind (g := fun r : (Tensor t n × Memory) × Memory =>
      Except.ok (Leaf.array (.window r.1.1.span), r.1.2)) copied fun _ => rfl

theorem unbounded_exprSteps [Numerics] (e : Term (Reference n) t) :
    (w.exprSteps c e).run.unbounded = some (w.expr c e) :=
  Calculation.follows_state.traverse (fun a => unbounded_resolveSteps a) e w.memory

theorem unbounded_operandSteps (t : DType) (n : Nat) (target : Target) :
    (w.operandSteps t n target).run.unbounded = some (w.operand t n target) := by
  unfold operandSteps operand
  cases target.window with
  | none => exact unbounded_run_bind (unbounded_run_except _) fun x => rfl
  | some slices => exact unbounded_run_bind (unbounded_viewSteps t n _ slices) fun s => rfl

theorem unbounded_elementSteps (t : DType) (n : Nat) (target : Target) (i : Index n) :
    (w.elementSteps t n target i).run.unbounded = some (w.element t n target i) :=
  unbounded_run_bind (unbounded_operandSteps t n target) fun a =>
    unbounded_run_adapt _ (a.span.unbounded_getSteps i)

theorem unbounded_equalSteps [Numerics] (a b : Target) :
    (w.equalSteps c a b).run.unbounded = some (w.equal c a b) :=
  unbounded_run_bind (unbounded_run_except _) fun p =>
    unbounded_run_bind (unbounded_run_except _) fun q =>
    unbounded_run_bind (unbounded_operandSteps p.1 p.2 a) fun x =>
    unbounded_run_bind (unbounded_operandSteps p.1 q.2 b) fun y =>
    unbounded_run_lift (x.unbounded_equalSteps y)

theorem unbounded_withMemorySteps {x : ExceptT Error Calculation Memory}
    {r : Except Error Memory} (same : x.run.unbounded = some r) :
    (w.withMemorySteps x).run.unbounded = some (w.withMemory r) := by
  have done := unbounded_run_bind (unbounded_run_adapt Failure.error same)
    (f := fun m => pure { w with memory := m }) (g := fun m => .ok { w with memory := m })
    fun _ => rfl
  cases r <;> exact done

theorem unbounded_withTensorSteps {x : ExceptT Error Calculation (Tensor t n × Memory)}
    {r : Except Error (Tensor t n × Memory)} (name : String) (same : x.run.unbounded = some r) :
    (w.withTensorSteps name x).run.unbounded = some (w.withTensor name r) := by
  have done := unbounded_run_bind (unbounded_run_adapt Failure.error same)
    (f := fun y => pure ({ w with memory := y.2 }.put name y.1))
    (g := fun y => .ok ({ w with memory := y.2 }.put name y.1)) fun _ => rfl
  cases r <;> exact done

theorem unbounded_createSteps [Numerics] (name : String) (space : Space) (contents : Contents n t) :
    (w.createSteps c name space contents).run.unbounded =
      some (w.create c name space contents) := by
  cases contents with
  | unshaped =>
    exact unbounded_withTensorSteps name (unbounded_run_lift Tensor.unbounded_newSteps)
  | unspecified s =>
    exact unbounded_withTensorSteps name (unbounded_run_lift (Tensor.unbounded_emptySteps s))
  | repeated s v =>
    exact unbounded_withTensorSteps name (unbounded_run_lift (Tensor.unbounded_fullSteps s v))
  | listed s data =>
    exact unbounded_withTensorSteps name (Tensor.unbounded_ofListSteps s data)
  | nested x => exact unbounded_withTensorSteps name (Tensor.unbounded_ofNestedSteps x)
  | value e =>
    exact unbounded_run_bind (unbounded_exprSteps e) fun r =>
      unbounded_withTensorSteps name (Tensor.unbounded_ofExprSteps r.1)

theorem unbounded_deriveSteps [Numerics] (name source : String) (how : Derivation) :
    (w.deriveSteps c name source how).run.unbounded = some (w.derive c name source how) := by
  refine unbounded_run_bind (unbounded_run_except _) fun x => ?_
  cases how with
  | clone => exact unbounded_withTensorSteps name rfl
  | emptyLike =>
    exact unbounded_withTensorSteps name (unbounded_run_lift (Tensor.unbounded_emptySteps _))
  | zerosLike =>
    exact unbounded_withTensorSteps name (unbounded_run_lift (Tensor.unbounded_fullSteps _ _))
  | toSpace space => exact unbounded_withTensorSteps name (Tensor.unbounded_toSpaceSteps _)
  | ofView slices =>
    exact unbounded_run_bind (unbounded_windowSteps x.dtype source slices) fun s =>
      unbounded_withTensorSteps name (unbounded_run_lift (Tensor.unbounded_ofSpanSteps s.span))
  | take => rfl

theorem unbounded_assignSteps [Numerics] (target : Target) (e : Term (Reference n) t) :
    (w.assignSteps c target e).unbounded = some (w.assign c target e) := by
  rw [assignSteps, unbounded_bind, unbounded_operandSteps, assign, Option.bind_some]
  cases w.operand t n target with
  | error fault => rfl
  | ok into =>
    dsimp only
    rw [unbounded_bind, unbounded_exprSteps, Option.bind_some]
    cases w.expr c e with
    | error fault => rfl
    | ok r =>
      cases into with
      | tensor x =>
        dsimp only
        rw [unbounded_bind, x.unbounded_assignSteps, Option.bind_some]
        rcases x.assign c r.1 r.2 with ⟨_ | _, _, _⟩ <;> rfl
      | window s =>
        dsimp only
        rw [unbounded_bind, s.unbounded_assignSteps, Option.bind_some]
        cases s.assign c r.1 r.2 <;> rfl

theorem unbounded_updateSteps [Numerics] (op : BinaryOp) (target : Target)
    (e : Term (Reference n) t) :
    (w.updateSteps c op target e).run.unbounded = some (w.update c op target e) := by
  refine unbounded_run_bind (unbounded_operandSteps t n target) fun into =>
    unbounded_run_bind (unbounded_exprSteps e) fun r => ?_
  cases into with
  | tensor x => exact unbounded_withMemorySteps (x.unbounded_updateSteps op r.1)
  | window s => exact unbounded_withMemorySteps (s.unbounded_assignSteps _)

theorem unbounded_fillSteps [Numerics] (target : Target) (v : t.Elem) :
    (w.fillSteps c target v).run.unbounded = some (w.fill c target v) := by
  refine unbounded_run_bind (unbounded_run_except _) fun p =>
    unbounded_run_bind (unbounded_operandSteps t p.2 target) fun into => ?_
  cases into with
  | tensor x => exact unbounded_withMemorySteps (x.unbounded_fillSteps v)
  | window s => exact unbounded_withMemorySteps (s.unbounded_assignSteps _)

theorem unbounded_setSteps (target : Target) (i : Index n) (v : t.Elem) :
    (w.setSteps target i v).run.unbounded = some (w.set target i v) := by
  refine unbounded_run_bind (unbounded_operandSteps t n target) fun into => ?_
  have done := unbounded_run_bind
    (unbounded_run_adapt Failure.outOfBounds (into.span.unbounded_setSteps (m := w.memory) i v))
    (f := fun m => pure { w with memory := m }) (g := fun m => .ok { w with memory := m })
    fun _ => rfl
  refine done.trans ?_
  cases into.span.set? i v w.memory <;> rfl

theorem unbounded_copySteps [Numerics] (target source : Target) (staged : Bool) :
    (w.copySteps c target source staged).run.unbounded = some (w.copy c target source staged) := by
  refine unbounded_run_bind (unbounded_run_except _) fun p =>
    unbounded_run_bind (unbounded_operandSteps p.1 p.2 target) fun into =>
    unbounded_run_bind (unbounded_operandSteps p.1 p.2 source) fun out => ?_
  split
  · cases out.view with
    | error fault => rfl
    | ok s =>
      refine unbounded_run_lift_bind (Tensor.unbounded_ofSpanSteps s) ?_
      exact unbounded_withMemorySteps (Operand.unbounded_copySteps _ into)
  · exact unbounded_withMemorySteps (out.unbounded_copySteps into)

theorem unbounded_settleSteps {x : ExceptT Failure Calculation Workspace}
    {r : Except Failure Workspace} (same : x.run.unbounded = some r) :
    (w.settleSteps x).unbounded = some (w.settle r) := by
  rw [settleSteps, unbounded_bind, same]
  cases r <;> rfl

theorem unbounded_runSteps [Numerics] (command : Command) :
    (w.runSteps c command).unbounded = some (w.run c command) := by
  cases command with
  | create name space contents =>
    exact unbounded_settleSteps (unbounded_createSteps name space contents)
  | derive name source how => exact unbounded_settleSteps (unbounded_deriveSteps name source how)
  | fullLike name source v =>
    exact unbounded_settleSteps (unbounded_run_bind (unbounded_run_except _) fun x =>
      unbounded_withTensorSteps name (unbounded_run_lift (Tensor.unbounded_fullSteps _ v)))
  | assign target e => exact unbounded_assignSteps target e
  | update op target e => exact unbounded_settleSteps (unbounded_updateSteps op target e)
  | fill target v => exact unbounded_settleSteps (unbounded_fillSteps target v)
  | set target i v => exact unbounded_settleSteps (unbounded_setSteps target i v)
  | copy target source staged =>
    exact unbounded_settleSteps (unbounded_copySteps target source staged)
  | resize name s =>
    exact unbounded_settleSteps (unbounded_run_bind (unbounded_run_except _) fun x =>
      unbounded_run_bind (unbounded_run_except _) fun y =>
      unbounded_withTensorSteps name (unbounded_run_lift (Tensor.unbounded_resizeSteps s y)))
  | resizeDiscard name s =>
    exact unbounded_settleSteps (unbounded_run_bind (unbounded_run_except _) fun x =>
      unbounded_run_bind (unbounded_run_except _) fun y =>
      unbounded_withTensorSteps name
        (unbounded_run_lift (Tensor.unbounded_resizeDiscardSteps s y)))
  | cloneFrom name source =>
    exact unbounded_settleSteps (unbounded_run_bind (unbounded_run_except _) fun x =>
      unbounded_run_bind (unbounded_run_except _) fun y =>
      unbounded_withTensorSteps name (x := pure _) (r := .ok _) rfl)
  | drop name => rfl

theorem unbounded_afterSteps [Numerics] (commands : List Command) :
    (w.afterSteps c commands).unbounded = some (w.after c commands) := by
  induction commands generalizing w with
  | nil => rfl
  | cons command rest ih =>
    rw [afterSteps, List.foldlM_cons, unbounded_bind, unbounded_bind, unbounded_runSteps]
    exact ih

end Workspace

end Strided
