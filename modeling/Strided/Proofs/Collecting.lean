import Mathlib.Logic.Relation
import Strided.Device.Evaluation

/-! What a source of device code collects.

All that rendering does to a source are three calls, and each of them keeps parameters, arguments
and counters in step: the `k`-th parameter of a kind has the number `k`, and its argument stands
where it does. So a name that was handed out once stands for its argument in every later source.
-/

set_option autoImplicit false

namespace Strided

variable {n : Nat} {t : DType}

namespace Argument

def isAddress : Argument → Bool
  | address _ _ => true
  | word _ => false

@[simp] theorem isAddress_address (t : DType) (a : Address) : (address t a).isAddress = true := rfl

@[simp] theorem isAddress_word (w : UInt64) : (word w).isAddress = false := rfl

end Argument

namespace KernelSource

/-- One call that rendering makes. -/
inductive Call : KernelSource → KernelSource → Prop
  | require (t : DType) (src : KernelSource) : Call src (src.require t)
  | pointer (t : DType) (a : Address) (src : KernelSource) : Call src (src.pushPointer t a).2
  | word (w : UInt64) (src : KernelSource) : Call src (src.pushWord w).2

def Leads : KernelSource → KernelSource → Prop :=
  Relation.ReflTransGen Call

/-- A source after calls from the beginning, at any moment. -/
def Reached (src : KernelSource) : Prop :=
  Leads empty src

section
variable (t) (src : KernelSource)

@[simp] theorem parameters_require : (src.require t).parameters = src.parameters := by
  unfold require
  split
  · split <;> rfl
  · rfl

@[simp] theorem arguments_require : (src.require t).arguments = src.arguments := by
  unfold require
  split
  · split <;> rfl
  · rfl

@[simp] theorem pointerCount_require : (src.require t).pointerCount = src.pointerCount := by
  unfold require
  split
  · split <;> rfl
  · rfl

@[simp] theorem scalarCount_require : (src.require t).scalarCount = src.scalarCount := by
  unfold require
  split
  · split <;> rfl
  · rfl

end

theorem Call.leads {src next : KernelSource} (call : Call src next) : Leads src next :=
  .single call

theorem leads_pushScalar [Numerics] (v : t.Elem) (src : KernelSource) :
    Leads src (src.pushScalar t v).2 := by
  have first : Leads src ((src.require t).pushWord (kernelWords t v).1).2 :=
    (Call.require t src).leads.tail (.word _ _)
  unfold pushScalar
  by_cases complex : t.isComplex
  · simp only [complex, ↓reduceIte]
    exact first.tail (.word (kernelWords t v).2 _)
  · by_cases integral : t.isIntegral
    · simpa only [complex, integral, Bool.false_eq_true, ↓reduceIte] using first
    · simpa only [complex, integral, Bool.false_eq_true, ↓reduceIte] using first

end KernelSource

open KernelSource (Leads)

theorem Source.leads_emit [Numerics] (a : Source n t) (src : KernelSource) :
    Leads src (a.emit src).2 := by
  cases a with
  | window s => exact (KernelSource.Call.pointer t s.start src).leads
  | scalar v => exact KernelSource.leads_pushScalar v src

theorem Term.leads_emit [Numerics] (k : Kernel n t) (src : KernelSource) :
    Leads src (Term.emit k src).2 := by
  induction k generalizing src with
  | leaf a => exact a.leads_emit src
  | binary op l r ihl ihr => exact (ihl src).trans (ihr _)
  | unary op e ih => exact ih src
  | cast t e ih => exact (KernelSource.Call.require _ src).leads.trans (ih _)

namespace KernelSource

/-- The parameters of arguments, given how many of each kind came before. -/
def numbered : Nat → Nat → List Argument → List Parameter
  | _, _, [] => []
  | pointers, scalars, .address t _ :: rest =>
    .pointer t (.pointer pointers) :: numbered (pointers + 1) scalars rest
  | pointers, scalars, .word _ :: rest =>
    .word (.scalar scalars) :: numbered pointers (scalars + 1) rest

theorem length_numbered (pointers scalars : Nat) (args : List Argument) :
    (numbered pointers scalars args).length = args.length := by
  induction args generalizing pointers scalars with
  | nil => rfl
  | cons arg args ih => cases arg <;> simp [numbered, ih]

-- Numbers go on from as many parameters of each kind as there were.
theorem numbered_append (pointers scalars : Nat) (args more : List Argument) :
    numbered pointers scalars (args ++ more) = numbered pointers scalars args ++
      numbered (pointers + args.countP Argument.isAddress)
        (scalars + args.countP (!·.isAddress)) more := by
  induction args generalizing pointers scalars with
  | nil => rfl
  | cons arg args ih =>
    cases arg with
    | address t a => simp [numbered, ih, List.countP_cons, Nat.add_assoc, Nat.add_comm 1]
    | word w => simp [numbered, ih, Nat.add_assoc, Nat.add_comm 1]

/-- The parameters are those of the arguments, and the counters know how many there are. -/
structure Aligned (src : KernelSource) : Prop where
  parameters : src.parameters = numbered 0 0 src.arguments
  pointers : src.pointerCount = src.arguments.countP Argument.isAddress
  scalars : src.scalarCount = src.arguments.countP (!·.isAddress)

theorem aligned_empty : empty.Aligned :=
  ⟨rfl, rfl, rfl⟩

/-- A call keeps everything in step. -/
theorem Call.aligned {src next : KernelSource} (call : Call src next) (aligned : src.Aligned) :
    next.Aligned := by
  obtain ⟨parameters, pointers, scalars⟩ := aligned
  cases call with
  | require t => constructor <;> simpa
  | pointer t a =>
    constructor
    · simp [pushPointer, numbered_append, numbered, parameters, pointers]
    · simp [pushPointer, pointers]
    · simp [pushPointer, scalars]
  | word w =>
    constructor
    · simp [pushWord, numbered_append, numbered, parameters, scalars]
    · simp [pushWord, pointers]
    · simp [pushWord, scalars]

theorem Leads.aligned {src final : KernelSource} (leads : Leads src final)
    (aligned : src.Aligned) : final.Aligned := by
  induction leads with
  | refl => exact aligned
  | tail _ call ih => exact call.aligned ih

theorem Reached.aligned {src : KernelSource} (reached : src.Reached) : src.Aligned :=
  Leads.aligned reached aligned_empty

theorem Call.prefixes {src next : KernelSource} (call : Call src next) :
    src.parameters <+: next.parameters ∧ src.arguments <+: next.arguments := by
  cases call with
  | require t => simp
  | pointer t a => simp [pushPointer]
  | word w => simp [pushWord]

/-- What was collected stays where it is. -/
theorem Leads.prefixes {src final : KernelSource} (leads : Leads src final) :
    src.parameters <+: final.parameters ∧ src.arguments <+: final.arguments := by
  induction leads with
  | refl => exact ⟨List.prefix_refl _, List.prefix_refl _⟩
  | tail _ call ih => exact ⟨ih.1.trans call.prefixes.1, ih.2.trans call.prefixes.2⟩

theorem bound?_cons (p : Parameter) (ps : List Parameter) (arg : Argument) (args : List Argument)
    (x : CName) : Parameter.bound? (p :: ps) (arg :: args) x =
      if p.name = x then some (p, arg) else Parameter.bound? ps args x := by
  by_cases same : p.name = x <;> simp [Parameter.bound?, same]

section
variable {pointers scalars k : Nat} {before after : List Argument}

theorem bound?_pointer (a : Address) (number : k = pointers + before.countP Argument.isAddress) :
    Parameter.bound? (numbered pointers scalars (before ++ .address t a :: after))
        (before ++ .address t a :: after) (.pointer k) =
      some (.pointer t (.pointer k), .address t a) := by
  induction before generalizing pointers scalars with
  | nil => simp [bound?_cons, numbered, Parameter.name, number]
  | cons arg before ih =>
    cases arg with
    | address s b =>
      rw [List.countP_cons_of_pos rfl] at number
      have other : CName.pointer pointers ≠ .pointer k := by
        rw [ne_eq, CName.pointer.injEq]
        omega
      rw [List.cons_append, numbered, bound?_cons, Parameter.name, if_neg other]
      exact ih (by omega)
    | word w =>
      rw [List.countP_cons_of_neg (by simp)] at number
      rw [List.cons_append, numbered, bound?_cons, Parameter.name, if_neg nofun]
      exact ih number

theorem bound?_scalar (w : UInt64) (number : k = scalars + before.countP (!·.isAddress)) :
    Parameter.bound? (numbered pointers scalars (before ++ .word w :: after))
        (before ++ .word w :: after) (.scalar k) = some (.word (.scalar k), .word w) := by
  induction before generalizing pointers scalars with
  | nil => simp [bound?_cons, numbered, Parameter.name, number]
  | cons arg before ih =>
    cases arg with
    | address s b =>
      rw [List.countP_cons_of_neg (by simp)] at number
      rw [List.cons_append, numbered, bound?_cons, Parameter.name, if_neg nofun]
      exact ih number
    | word v =>
      rw [List.countP_cons_of_pos rfl] at number
      have other : CName.scalar scalars ≠ .scalar k := by
        rw [ne_eq, CName.scalar.injEq]
        omega
      rw [List.cons_append, numbered, bound?_cons, Parameter.name, if_neg other]
      exact ih (by omega)

end

section
variable {src final : KernelSource} (aligned : src.Aligned)
include aligned

/-- A buffer's name stands for its address ever after. -/
theorem Aligned.bound?_pushPointer (a : Address) (leads : Leads (src.pushPointer t a).2 final) :
    Parameter.bound? final.parameters final.arguments (.pointer src.pointerCount) =
      some (.pointer t (.pointer src.pointerCount), .address t a) := by
  have later := leads.aligned ((Call.pointer t a src).aligned aligned)
  obtain ⟨after, same⟩ := leads.prefixes.2
  have arguments : final.arguments = src.arguments ++ .address t a :: after := by
    rw [← same]
    simp [pushPointer]
  rw [later.parameters, arguments]
  exact bound?_pointer a (by rw [aligned.pointers, Nat.zero_add])

/-- A word's name stands for the word ever after. -/
theorem Aligned.bound?_pushWord (w : UInt64) (leads : Leads (src.pushWord w).2 final) :
    Parameter.bound? final.parameters final.arguments (.scalar src.scalarCount) =
      some (.word (.scalar src.scalarCount), .word w) := by
  have later := leads.aligned ((Call.word w src).aligned aligned)
  obtain ⟨after, same⟩ := leads.prefixes.2
  have arguments : final.arguments = src.arguments ++ .word w :: after := by
    rw [← same]
    simp [pushWord]
  rw [later.parameters, arguments]
  exact bound?_scalar w (by rw [aligned.scalars, Nat.zero_add])

end

end KernelSource

end Strided
