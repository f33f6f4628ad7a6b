import Strided.Numerics.Standard
import Strided.Proofs.Fitting
import Strided.Proofs.Refinement
import Strided.Proofs.WordRuns

/-! Runs on words refine runs on plain values.

In a run in which every number is a word each step comes to what it comes to without a bound, so it
follows the plain values, and the elements of its tensors are listed with words. The values have no
strides; a shape without elements may have strides that are none, and a run that gives it to a
tensor does not get to its end.
-/

set_option autoImplicit false

namespace Strided

open Calculation (Settles settles_run_except)
open Outcome

variable {t : DType} {n : Nat}

namespace Tensor

variable [Numerics]

theorem toList_span {x : Tensor t n} (dense : x.layout = .contiguous x.shape) (c : ExecConfig)
    (m : Memory) : x.span.toList c m = m.readRun t x.storage.start x.size := by
  rw [Span.toList]
  split
  · rename_i none
    change x.size = 0 at none
    rw [none]
    rfl
  · have contiguous : x.span.isContiguous = true := by
      change x.layout.isContiguous = true
      rw [dense]
      exact Layout.isContiguous_contiguous x.shape
    rw [if_pos contiguous]
    rfl

theorem settles_toListSteps {x : Tensor t n} (addressable : x.shape.Addressable) (c : ExecConfig)
    (m : Memory) : ((Operand.tensor x).toListSteps c m).run.Settles (x.toList c m) := by
  refine (settles_run_except x.view).run_bind fun s viewed => ?_
  obtain ⟨_, _, viewed⟩ := bind_eq_ok_iff.1 viewed
  obtain rfl := Except.ok.inj viewed
  have own : x.span.shape.Addressable := addressable
  exact (Span.settles_toListSteps own).run_lift

/-- What can be seen of a tensor agrees with its plain value: its space and shape, whether it was
moved from, and every element that is specified. -/
structure Agrees (c : ExecConfig) (m : Memory) (x : Tensor t n) (p : ValueTensor t n) : Prop where
  space : x.space = p.space
  shape : x.shape = p.shape
  moved : x.isMovedFrom = p.content.isNone
  elements : ∃ r, ((Operand.tensor x).toListSteps c m).run.Settles r ∧
    Alike (fun vs content => content.Describes vs) r p.view

theorem Tracks.alike_toList {x : Tensor t n} {p : ValueTensor t n} {m : Memory}
    (tracks : x.Tracks p m) (c : ExecConfig) :
    Alike (fun vs content => content.Describes vs) (x.toList c m) p.view := by
  have viewed := tracks.alike_view
  rw [toList]
  generalize x.view = r, p.view = r' at viewed ⊢
  cases viewed with
  | error fault => exact .error fault
  | @ok span content related =>
    obtain ⟨rfl, _, rfl⟩ := related
    have length : p.copied.values.length = x.size :=
      p.copied.complete.trans (congrArg Shape.size tracks.shape.symm)
    refine .ok ⟨?_, fun k v given => ?_⟩
    · rw [toList_span tracks.kept.dense, Memory.length_readRun, length]
    · have below : k < x.size := length ▸ (List.getElem?_eq_some_iff.1 given).1
      have found := tracks.values k v (Content.at?_eq_some_iff.2 given)
      rw [toList_span tracks.kept.dense, List.getElem?_eq_getElem (by simpa using below),
        Memory.getElem_readRun, Memory.read, found, Option.getD_some]

theorem Tracks.agrees {x : Tensor t n} {p : ValueTensor t n} {m : Memory} (tracks : x.Tracks p m)
    (addressable : x.shape.Addressable) (c : ExecConfig) : x.Agrees c m p where
  space := tracks.space
  shape := tracks.shape
  moved := tracks.moved
  elements := ⟨x.toList c m, settles_toListSteps addressable c m, tracks.alike_toList c⟩

end Tensor

/-- A tensor and its plain value, of one element type and one rank, agree. -/
inductive AnyTensor.Agrees [Numerics] (c : ExecConfig) (m : Memory) :
    AnyTensor → AnyValueTensor → Prop where
  | intro {t : DType} {n : Nat} {x : Tensor t n} {p : ValueTensor t n} (agrees : x.Agrees c m p) :
    Agrees c m ⟨x⟩ ⟨p⟩

namespace Workspace

theorem Refines.agrees [Numerics] {w : Workspace} {s : ValueStore} (refines : w.Refines s)
    (addressable : w.Addressable) (c : ExecConfig) (name : String) :
    Option.Rel (AnyTensor.Agrees c w.memory) (w.tensor? name) (s name) :=
  rel_imp (refines.same name) fun _ _ found tracks => by
    cases tracks with
    | intro tracks => exact .intro (tracks.agrees (addressable name _ found) c)

theorem Spares.toList [Numerics] {w w' : Workspace} {s : ValueStore} {name : String}
    (refines : w.Refines s) (spares : w.Spares w' name) {x : AnyTensor}
    (found : w.tensor? name = some x) (c : ExecConfig) :
    x.tensor.toList c w'.memory = x.tensor.toList c w.memory := by
  obtain ⟨p, -, tracks⟩ := refines.tracked found
  cases tracks with
  | @intro t n x p tracks =>
    have viewed := tracks.alike_view
    rw [Tensor.toList, Tensor.toList]
    generalize x.view = r, p.view = r' at viewed ⊢
    cases viewed with
    | error fault => rfl
    | ok related =>
      obtain ⟨rfl, -⟩ := related
      refine congrArg Except.ok ?_
      rw [Tensor.toList_span tracks.kept.dense, Tensor.toList_span tracks.kept.dense]
      refine List.map_congr_left fun k member => ?_
      have below := List.mem_range.1 member
      obtain ⟨v, held⟩ := Option.isSome_iff_exists.1 (tracks.read?_shift below)
      have later := spares.2 _ found (x.storage.start.shift k) v rfl held
      rw [Memory.read, Memory.read, held]
      exact congrArg (Option.getD · _) later

/-- The elements of a tensor are listed the same in two memories. -/
def Lists [Numerics] (c : ExecConfig) (x : AnyTensor) (m m' : Memory) : Prop :=
  ∃ r, ((Operand.tensor x.tensor).toListSteps c m).run.Settles r ∧
    ((Operand.tensor x.tensor).toListSteps c m').run.Settles r

theorem afterSteps_append [Numerics] (w : Workspace) (c : ExecConfig) (commands : List Command)
    (command : Command) :
    w.afterSteps c (commands ++ [command]) = (do
      let w ← w.afterSteps c commands
      return (← w.runSteps c command).2) := by
  rw [afterSteps, List.foldlM_append]
  simp only [List.foldlM_cons, List.foldlM_nil, bind_pure]
  rfl

theorem fits_afterSteps_append [Numerics] {w : Workspace} {c : ExecConfig} {commands : List Command}
    {command : Command} : (w.afterSteps c (commands ++ [command])).Fits ↔
      (w.afterSteps c commands).Fits ∧ ((w.after c commands).runSteps c command).Fits := by
  rw [afterSteps_append, Calculation.fits_bind (unbounded_afterSteps commands),
    Calculation.fits_bind (unbounded_runSteps command), and_iff_left (Calculation.fits_pure _)]

/-- After every run of operations, the next one ends on tensors as it does on values, every tensor
agrees with its value, and the tensors that the operation is not about are as they were. -/
theorem after_refines [Numerics] {c : ExecConfig} (valid : c.validate = .ok ())
    (before : List Operation) (o : Operation) (separate : ∀ p ∈ before ++ [o], p.Separate)
    (fits : (empty.afterSteps c ((before ++ [o]).map Operation.command)).Fits) :
    let s := ValueStore.empty.after before
    ∃ w result w', (empty.afterSteps c (before.map Operation.command)).Settles w ∧
      (w.runSteps c o.command).Settles (result, w') ∧ result = (s.step o).1 ∧
      (∀ name, Option.Rel (AnyTensor.Agrees c w'.memory) (w'.tensor? name) ((s.step o).2 name)) ∧
      ∀ name, ¬ o.Changes name → w'.tensor? name = w.tensor? name ∧
        ∀ x, w.tensor? name = some x → Lists c x w.memory w'.memory := by
  intro s
  rw [List.map_append, List.map_singleton, fits_afterSteps_append] at fits
  obtain ⟨started, ended⟩ := fits
  have valid := ExecConfig.validate_eq_ok_iff.1 valid
  obtain ⟨earlier, last⟩ := List.forall_mem_append.1 separate
  have reached := unbounded_afterSteps (w := empty) (c := c) (before.map Operation.command)
  generalize same : empty.after c (before.map Operation.command) = w at reached ended
  have refines : w.Refines s := same ▸ refines_empty.after valid earlier
  have answers := refines.step valid (last o (List.mem_singleton.2 rfl))
  have stepped := unbounded_runSteps (w := w) (c := c) o.command
  have addressable := addressable_empty.afterSteps _ started w reached
  have addressable' := addressable.runSteps o.command ended _ stepped
  refine ⟨w, _, _, started.settles reached, ended.settles stepped, answers.outcome,
    answers.advances.refines.agrees addressable' c, fun name other => ?_⟩
  have spares := answers.advances.spares name other
  refine ⟨spares.1, fun x found => ⟨x.tensor.toList c w.memory, ?_, ?_⟩⟩
  · exact Tensor.settles_toListSteps (addressable name x found) c w.memory
  · rw [← spares.toList refines found c]
    exact Tensor.settles_toListSteps (addressable name x found) c _

-- Three numbers are handed over, copied, and assigned back to the tensor that was left.
def handedOver : List Operation :=
  [.create "a" .threads (.listed (.ofFn fun _ => 3) [1, 2, 3] : Contents 1 .i32), .take "b" "a",
    .clone "d" "b", .assign "a" (.leaf (.tensor "b") : Term (Reference 1) .i32),
    .resize "a" (.ofFn fun _ => 5 : Shape 1)]

theorem after_refines_handedOver :
    let o := Operation.set "d" (#v[1] : Index 1) (7 : DType.i32.Elem)
    (empty.afterSteps oneThread ((handedOver ++ [o]).map Operation.command)).Fits ∧
    ∃ w w', (empty.afterSteps oneThread (handedOver.map Operation.command)).Settles w ∧
      (w.runSteps oneThread o.command).Settles (.ok (), w') ∧
      ∃ x : Tensor .i32 1, w'.tensor? "d" = some ⟨x⟩ ∧
        ((Operand.tensor x).toListSteps oneThread w'.memory).run.Settles (.ok [1, 7, 3]) := by
  intro o
  have separate : ∀ p ∈ handedOver ++ [o], p.Separate := by
    simp [handedOver, o, Operation.Separate, Term.leaves, Reference.borrowed?]
  have valid : oneThread.validate = .ok () := rfl
  have fits : (empty.afterSteps oneThread ((handedOver ++ [o]).map Operation.command)).Fits := by
    decide +kernel
  obtain ⟨w, result, w', before, after, outcome, agrees, -⟩ :=
    after_refines valid handedOver o separate fits
  have given : ((ValueStore.empty.after handedOver).step o).2 "d" =
      some ⟨⟨.threads, some ⟨.ofFn fun _ => 3, [some 1, some 7, some 3], rfl⟩⟩⟩ := rfl
  have agree := agrees "d"
  rw [given] at agree
  obtain rfl : result = .ok () := outcome.trans rfl
  refine ⟨fits, w, w', before, after, ?_⟩
  generalize w'.tensor? "d" = found at agree ⊢
  cases agree with
  | some agrees =>
    cases agrees with
    | intro agrees =>
      obtain ⟨r, settles, elements⟩ := agrees.elements
      obtain ⟨vs, rfl, describes⟩ := elements.exists_ok rfl
      obtain rfl : vs = [1, 7, 3] := describes.eq rfl
      exact ⟨_, rfl, settles⟩

-- No elements, and a stride of 2147483648 times 4294967296, which is no word.
def vastNothing : Operation :=
  .create "a" .host (.unspecified ⟨#v[2147483648, 4294967296, 0]⟩ : Contents 3 .u8)

theorem runSteps_of_vastNothing :
    (ValueStore.empty.step vastNothing).1 = .ok () ∧
      (empty.runSteps oneThread vastNothing.command).checked.isNone := by
  decide +kernel

end Workspace

end Strided
