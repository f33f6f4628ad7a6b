import Strided.Proofs.Sizing
import Strided.Proofs.Upkeep
import Strided.Proofs.WordLevel

/-! Runs of commands in which every number is a word.

Whatever gives a tensor a shape calculates the strides of that shape. If the numbers on the way are
words the shape is addressable, and what is calculated from it later comes to the same in every
build. So a run tells of all its tensors that they are addressable, whatever its commands are.
-/

set_option autoImplicit false

namespace Strided

variable {t : DType} {n : Nat}

namespace Calculation

variable {α β ε : Type} {P : α → Prop} {Q : β → Prop}

/-- If every number on the way is a word, what the calculation comes to has the property. -/
def Ensures (c : Calculation α) (P : α → Prop) : Prop :=
  c.Fits → ∀ a, c.unbounded = some a → P a

theorem ensures_pure {a : α} (holds : P a) : (pure a : Calculation α).Ensures P := by
  intro _ b same
  cases same
  exact holds

theorem Ensures.bind {c : Calculation α} {next : α → Calculation β} (first : c.Ensures P)
    (then_ : ∀ a, P a → (next a).Ensures Q) : (c >>= next).Ensures Q := by
  intro fits b found
  rw [unbounded_bind, Option.bind_eq_some_iff] at found
  obtain ⟨a, reached, found⟩ := found
  obtain ⟨before, after⟩ := (fits_bind reached).1 fits
  exact then_ a (first before a reached) after b found

theorem ensures_bind {c : Calculation α} {next : α → Calculation β}
    (then_ : ∀ a, (next a).Ensures Q) : (c >>= next).Ensures Q :=
  Ensures.bind (P := fun _ => True) (fun _ _ _ => trivial) fun a _ => then_ a

/-- The same of a calculation that may fail, for what it comes to if it does not. -/
def Yields (x : ExceptT ε Calculation α) (P : α → Prop) : Prop :=
  x.run.Ensures fun r => ∀ a, r = .ok a → P a

theorem yields_pure {a : α} (holds : P a) : Yields (pure a : ExceptT ε Calculation α) P :=
  ensures_pure fun _ same => Except.ok.inj same ▸ holds

theorem yields_throw (fault : ε) : Yields (throw fault : ExceptT ε Calculation α) P :=
  ensures_pure nofun

theorem yields_lift {c : Calculation α} (ensures : c.Ensures P) :
    Yields (liftM c : ExceptT ε Calculation α) P :=
  ensures.bind fun _ holds => yields_pure holds

theorem yields_except {r : Except ε α} (holds : ∀ a, r = .ok a → P a) :
    Yields (liftM r : ExceptT ε Calculation α) P :=
  ensures_pure holds

theorem Yields.bind {x : ExceptT ε Calculation α} {f : α → ExceptT ε Calculation β}
    (first : Yields x P) (then_ : ∀ a, P a → Yields (f a) Q) : Yields (x >>= f) Q := by
  refine Ensures.bind first fun r holds => ?_
  cases r with
  | ok a => exact then_ a (holds a rfl)
  | error fault => exact yields_throw fault

theorem yields_bind {x : ExceptT ε Calculation α} {f : α → ExceptT ε Calculation β}
    (then_ : ∀ a, Yields (f a) Q) : Yields (x >>= f) Q :=
  Yields.bind (P := fun _ => True) (fun _ _ _ _ _ => trivial) fun a _ => then_ a

theorem Yields.adapt {ε' : Type} {x : ExceptT ε Calculation α} (yields : Yields x P)
    (f : ε → ε') : Yields (x.adapt f) P := by
  refine Ensures.bind yields fun r holds => ensures_pure fun a same => ?_
  cases r with
  | ok b => exact holds a (congrArg Except.ok (Except.ok.inj same))
  | error fault => cases same

end Calculation

open Calculation (Ensures Yields ensures_pure ensures_bind yields_pure yields_throw yields_lift
  yields_except yields_bind fits_bind)

theorem Radix.Addressable.of_fits {span : Nat} {es : List Nat} (word : IsWord span)
    (fits : (Shape.weightsSteps span es).Fits) : Addressable span es := by
  induction es generalizing span with
  | nil => exact ⟨nofun, fun k => by simpa [size] using word⟩
  | cons e es ih =>
    rw [Shape.weightsSteps, fits_bind (Calculation.unbounded_cast _), Calculation.fits_cast,
      fits_bind (Calculation.unbounded_compute _), Calculation.fits_compute,
      fits_bind (Shape.unbounded_weightsSteps _ _)] at fits
    obtain ⟨head, next, rest, -⟩ := fits
    have tail : Addressable (span * e) es :=
      ih (by exact_mod_cast next) (by exact_mod_cast rest)
    refine ⟨List.forall_mem_cons.2 ⟨head, tail.extents⟩, fun k => ?_⟩
    cases k with
    | zero => simpa [size] using word
    | succ k => simpa [size, Nat.mul_assoc] using tail.spans k

theorem Layout.ensures_contiguousSteps (s : Shape n) :
    (contiguousSteps s).Ensures fun l => l.shape.Addressable := by
  intro fits l found
  rw [unbounded_contiguousSteps] at found
  obtain rfl := Option.some.inj found
  rw [contiguousSteps, fits_bind (Shape.unbounded_defaultStridesSteps s),
    Shape.defaultStridesSteps, fits_bind (Shape.unbounded_weightsSteps _ _)] at fits
  have addressable := Radix.Addressable.of_fits (by decide) fits.1.1
  have spans (k : Nat) : IsWord (Radix.size (s.toList.take k)) := by
    simpa using addressable.spans k
  exact ⟨addressable.extents, spans⟩

namespace Tensor

/-- The shape of what is made is addressable. -/
def Fitted (r : Tensor t n × Memory) : Prop :=
  r.1.shape.Addressable

variable {space : Space} {c : ExecConfig} {m : Memory}

theorem ensures_emptySteps (s : Shape n) :
    (emptySteps space s m : Calculation (Tensor t n × Memory)).Ensures Fitted :=
  (Layout.ensures_contiguousSteps s).bind fun _ fitted => ensures_bind fun _ =>
    ensures_pure fitted

theorem yields_ofListSteps (s : Shape n) (data : List t.Elem) :
    Yields (ofListSteps space s data m) Fitted := by
  refine yields_bind fun size => ?_
  dsimp only
  split
  · exact (yields_lift (Layout.ensures_contiguousSteps s)).bind fun _ fitted =>
      yields_pure fitted
  · exact yields_throw _

theorem ensures_resizeSteps (s : Shape n) (x : Tensor t n) :
    (x.resizeSteps s m).Ensures Fitted :=
  ensures_bind fun _ => (Layout.ensures_contiguousSteps s).bind fun _ fitted =>
    ensures_pure fitted

theorem ensures_resizeDiscardSteps (s : Shape n) (x : Tensor t n) :
    (x.resizeDiscardSteps s m).Ensures Fitted :=
  ensures_bind fun _ => (Layout.ensures_contiguousSteps s).bind fun _ fitted =>
    ensures_pure fitted

theorem ensures_fullSteps [Numerics] (s : Shape n) (v : t.Elem) :
    (fullSteps c space s v m).Ensures Fitted :=
  (ensures_emptySteps s).bind fun _ fitted => ensures_bind fun _ => ensures_pure fitted

theorem ensures_adoptSteps {x : Tensor t n} (addressable : x.shape.Addressable) (s : Shape n) :
    (x.adoptSteps s m).Ensures Fitted := by
  unfold adoptSteps
  split
  · exact ensures_resizeDiscardSteps s x
  · exact ensures_pure addressable

theorem ensures_ofSpanSteps [Numerics] (s : Span t n) : (ofSpanSteps c s m).Ensures Fitted := by
  refine (ensures_emptySteps s.shape).bind fun r fitted => ensures_bind fun size => ?_
  split
  · exact ensures_pure fitted
  · refine ensures_bind fun dense => ?_
    split <;> exact ensures_pure fitted

theorem yields_toSpaceSteps (x : Tensor t n) : Yields (x.toSpaceSteps space m) Fitted :=
  yields_bind fun _ => (yields_lift (ensures_emptySteps x.shape)).bind fun _ fitted =>
    yields_bind fun _ => yields_pure fitted

theorem ensures_assignSteps [Numerics] {x : Tensor t n} (addressable : x.shape.Addressable)
    (e : Expr n t) :
    (x.assignSteps c e m).Ensures fun r => Fitted r.2 := by
  unfold assignSteps
  split
  · exact ensures_pure addressable
  · exact ensures_pure addressable
  · refine (ensures_adoptSteps addressable _).bind fun r fitted => ensures_bind fun done => ?_
    split <;> exact ensures_pure fitted

theorem yields_ofExprSteps [Numerics] (e : Expr n t) : Yields (ofExprSteps c space e m) Fitted := by
  refine (yields_lift (ensures_emptySteps .zeros)).bind fun r fitted =>
    (yields_lift (ensures_assignSteps fitted e)).bind fun q left => ?_
  rcases q with ⟨fault | done, y, m'⟩
  · exact yields_throw fault
  · exact yields_pure left

end Tensor

namespace Workspace

def Addressable (w : Workspace) : Prop :=
  ∀ name x, w.tensor? name = some x → x.tensor.shape.Addressable

variable {w : Workspace} {c : ExecConfig} {name : String}

theorem addressable_empty : Workspace.empty.Addressable :=
  nofun

section
variable (addressable : w.Addressable)
include addressable

theorem Addressable.put {x : Tensor t n} (fitted : x.shape.Addressable) (m : Memory) :
    ({ w with memory := m }.put name x).Addressable := by
  intro k y found
  rw [tensor?_put] at found
  split at found
  · obtain rfl := Option.some.inj found
    exact fitted
  · exact addressable k y found

theorem Addressable.erase (name : String) : (w.erase name).Addressable := by
  intro k x found
  change (if k = name then none else w.tensor? k) = some x at found
  split at found
  · cases found
  · exact addressable k x found

theorem Addressable.find {x : AnyTensor} (found : w.find name = .ok x) :
    x.tensor.shape.Addressable :=
  addressable name x (find_eq_ok_iff.1 found)

theorem Addressable.tensor {x : Tensor t n} (found : w.tensor t n name = .ok x) :
    x.shape.Addressable :=
  addressable name ⟨x⟩ (tensor_eq_ok_iff.1 found)

theorem Addressable.operandSteps (target : Target) :
    Yields (w.operandSteps t n target) fun a => ∀ x, a = .tensor x → x.shape.Addressable := by
  unfold Workspace.operandSteps
  split
  · exact (yields_except fun x => addressable.tensor).bind fun x fitted =>
      yields_pure fun y same => Operand.tensor.inj same ▸ fitted
  · exact yields_bind fun s => yields_pure nofun

theorem Addressable.withTensorSteps {r : ExceptT Error Calculation (Tensor t n × Memory)}
    (fitted : Yields r Tensor.Fitted) (name : String) :
    Yields (w.withTensorSteps name r) Addressable :=
  (fitted.adapt Failure.error).bind fun y fitted => yields_pure (addressable.put fitted y.2)

theorem Addressable.withMemorySteps (r : ExceptT Error Calculation Memory) :
    Yields (w.withMemorySteps r) Addressable :=
  yields_bind fun _ => yields_pure addressable

theorem Addressable.createSteps [Numerics] (space : Space) (contents : Contents n t) :
    Yields (w.createSteps c name space contents) Addressable := by
  cases contents with
  | unshaped =>
    exact addressable.withTensorSteps (yields_lift (Tensor.ensures_emptySteps .zeros)) name
  | unspecified s =>
    exact addressable.withTensorSteps (yields_lift (Tensor.ensures_emptySteps s)) name
  | repeated s v =>
    exact addressable.withTensorSteps (yields_lift (Tensor.ensures_fullSteps s v)) name
  | listed s data => exact addressable.withTensorSteps (Tensor.yields_ofListSteps s data) name
  | nested x =>
    exact addressable.withTensorSteps (yields_bind fun s => Tensor.yields_ofListSteps s _) name
  | value e =>
    exact yields_bind fun r => addressable.withTensorSteps (Tensor.yields_ofExprSteps r.1) name

theorem Addressable.deriveSteps [Numerics] (source : String) (how : Derivation) :
    Yields (w.deriveSteps c name source how) Addressable := by
  refine (yields_except fun x => addressable.find).bind fun x fitted => ?_
  cases how with
  | clone =>
    have cloned : Tensor.Fitted (x.tensor.clone w.memory) := fitted
    exact addressable.withTensorSteps (yields_pure cloned) name
  | emptyLike =>
    exact addressable.withTensorSteps (yields_lift (Tensor.ensures_emptySteps _)) name
  | zerosLike =>
    exact addressable.withTensorSteps (yields_lift (Tensor.ensures_fullSteps _ _)) name
  | toSpace space => exact addressable.withTensorSteps (Tensor.yields_toSpaceSteps x.tensor) name
  | ofView slices =>
    exact yields_bind fun s =>
      addressable.withTensorSteps (yields_lift (Tensor.ensures_ofSpanSteps s.span)) name
  | take =>
    have left : x.tensor.take.2.shape.Addressable := Shape.addressable_zeros
    have emptied : (w.put source x.tensor.take.2).Addressable := addressable.put left w.memory
    have taken : x.tensor.take.1.shape.Addressable := fitted
    exact yields_pure (emptied.put taken w.memory)

theorem Addressable.assignSteps [Numerics] (target : Target) (e : Term (Reference n) t) :
    (w.assignSteps c target e).Ensures fun r => r.2.Addressable := by
  refine Ensures.bind (addressable.operandSteps target) fun into fitted => ?_
  split
  · exact ensures_pure addressable
  · rename_i a
    refine ensures_bind fun resolved => ?_
    split
    · exact ensures_pure addressable
    · rename_i x e m
      refine (Tensor.ensures_assignSteps (fitted _ rfl x rfl) e).bind fun r left => ?_
      split <;> exact ensures_pure (addressable.put left _)
    · refine ensures_bind fun done => ?_
      split <;> exact ensures_pure addressable

theorem Addressable.settleSteps {r : ExceptT Failure Calculation Workspace}
    (yields : Yields r Addressable) : (w.settleSteps r).Ensures fun r => r.2.Addressable := by
  refine Ensures.bind yields fun r done => ?_
  cases r with
  | ok w' => exact ensures_pure (done w' rfl)
  | error fault => exact ensures_pure addressable

theorem Addressable.renewSteps
    {make : {t : DType} → Tensor t n → Calculation (Tensor t n × Memory)}
    (fitted : ∀ {t : DType} (x : Tensor t n), (make x).Ensures Tensor.Fitted) (name : String) :
    (w.settleSteps do
      let x ← w.find name
      let x ← w.tensor x.dtype n name
      w.withTensorSteps name (make x)).Ensures fun r => r.2.Addressable :=
  addressable.settleSteps (yields_bind fun _ => yields_bind fun x =>
    addressable.withTensorSteps (yields_lift (fitted x)) name)

-- One command, whatever it is and whether or not it succeeds.
theorem Addressable.runSteps [Numerics] (command : Command) :
    (w.runSteps c command).Ensures fun r => r.2.Addressable := by
  cases command with
  | create name space contents =>
    exact addressable.settleSteps (addressable.createSteps space contents)
  | derive name source how => exact addressable.settleSteps (addressable.deriveSteps source how)
  | fullLike name source v =>
    exact addressable.settleSteps (yields_bind fun _ =>
      addressable.withTensorSteps (yields_lift (Tensor.ensures_fullSteps _ v)) name)
  | assign target e => exact addressable.assignSteps target e
  | update op target e =>
    refine addressable.settleSteps (yields_bind fun into => yields_bind fun r => ?_)
    cases into <;> exact addressable.withMemorySteps _
  | fill target v =>
    refine addressable.settleSteps (yields_bind fun _ => yields_bind fun into => ?_)
    cases into <;> exact addressable.withMemorySteps _
  | set target i v =>
    exact addressable.settleSteps (yields_bind fun _ => yields_bind fun _ =>
      yields_pure addressable)
  | copy target source staged =>
    refine addressable.settleSteps (yields_bind fun _ => yields_bind fun into =>
      yields_bind fun out => ?_)
    dsimp only
    split
    · exact yields_bind fun _ => yields_bind fun _ => addressable.withMemorySteps _
    · exact addressable.withMemorySteps _
  | resize name s => exact addressable.renewSteps (Tensor.ensures_resizeSteps s) name
  | resizeDiscard name s =>
    exact addressable.renewSteps (Tensor.ensures_resizeDiscardSteps s) name
  | cloneFrom name source =>
    refine addressable.settleSteps (yields_bind fun x =>
      (yields_except fun y => addressable.tensor).bind fun y fitted => ?_)
    have cloned : Tensor.Fitted (x.tensor.cloneFrom y w.memory) := fitted
    exact addressable.withTensorSteps (yields_pure cloned) name
  | drop name => exact ensures_pure (addressable.erase name)

theorem Addressable.afterSteps [Numerics] (commands : List Command) :
    (w.afterSteps c commands).Ensures Addressable := by
  induction commands generalizing w with
  | nil => exact ensures_pure addressable
  | cons command rest ih =>
    exact Ensures.bind ((addressable.runSteps command).bind fun _ => ensures_pure) fun _ => ih

end

end Workspace

end Strided
