import Strided.Numerics.Standard
import Strided.Proofs.Declaring
import Strided.Proofs.Simulation

/-! What the text of a kernel leaves open: the values of scalars and the addresses of buffers.

Rendering passes both as arguments. Two runs that are asked for the same, up to these inputs, go
through sources with the same declarations and headers and write the same text. Their arguments are
the words of their inputs in order, so they differ only where the words of an input do.
-/

set_option autoImplicit false

namespace Strided

variable {n : Nat} {t : DType}

/-- What a kernel is given when it is started. -/
inductive Input where
  | address (t : DType) (a : Address)
  | value (t : DType) (v : t.Elem)

/-- Two arguments for which parameters are declared alike. -/
inductive Argument.Alike : Argument → Argument → Prop where
  | address (t : DType) (a b : Address) : Alike (.address t a) (.address t b)
  | word (v w : UInt64) : Alike (.word v) (.word w)

namespace Input

def arguments [Numerics] : Input → List Argument
  | address t a => [.address t a]
  | value t v => (Source.scalar v : Source 0 t).arguments

/-- The words that stand for an input, given those at which allocated buffers begin. -/
def words [Numerics] (home : Nat → UInt64) (x : Input) : List UInt64 :=
  x.arguments.map (Argument.toWord home)

/-- Two inputs that differ in nothing but the value or the address. -/
inductive Alike : Input → Input → Prop where
  | address (t : DType) (a b : Address) : Alike (.address t a) (.address t b)
  | value (t : DType) (v w : t.Elem) : Alike (.value t v) (.value t w)

theorem Alike.arguments [Numerics] {x y : Input} (alike : x.Alike y) :
    List.Forall₂ Argument.Alike x.arguments y.arguments := by
  cases alike with
  | address t a b => exact .cons (.address t a b) .nil
  | value t v w =>
    simp only [Input.arguments, Source.arguments]
    split
    · exact .cons (.word _ _) (.cons (.word _ _) .nil)
    · exact .cons (.word _ _) .nil

theorem Alike.length_words [Numerics] {x y : Input} (alike : x.Alike y)
    (home home' : Nat → UInt64) :
    (x.words home).length = (y.words home').length := by
  simpa [words] using alike.arguments.length_eq

-- Blocks of words of the same lengths: a position lies in the block of one input on both sides.
theorem exists_block [Numerics] {xs ys : List Input} (alike : List.Forall₂ Alike xs ys)
    {home home' : Nat → UInt64} {k : Nat}
    (differ : (xs.flatMap (words home))[k]? ≠ (ys.flatMap (words home'))[k]?) :
    ∃ j x y r, xs[j]? = some x ∧ ys[j]? = some y ∧
      k = ((xs.take j).flatMap (words home)).length + r ∧
      (xs.flatMap (words home))[k]? = (x.words home)[r]? ∧
      (ys.flatMap (words home'))[k]? = (y.words home')[r]? := by
  induction alike generalizing k with
  | nil => exact absurd rfl differ
  | @cons x y xs ys head tail ih =>
    have lengths := head.length_words home home'
    simp only [List.flatMap_cons] at differ ⊢
    by_cases inside : k < (x.words home).length
    · refine ⟨0, x, y, k, rfl, rfl, by simp, ?_, ?_⟩
      · exact List.getElem?_append_left inside
      · exact List.getElem?_append_left (lengths ▸ inside)
    · have outside : (x.words home).length ≤ k := Nat.le_of_not_lt inside
      have outside' : (y.words home').length ≤ k := lengths ▸ outside
      rw [List.getElem?_append_right outside, List.getElem?_append_right outside',
        ← lengths] at differ ⊢
      obtain ⟨j, x', y', r, found, found', position, word, word'⟩ := ih differ
      refine ⟨j + 1, x', y', r, found, found', ?_, word, word'⟩
      rw [List.take_succ_cons, List.flatMap_cons, List.length_append]
      omega

end Input

namespace Source

def input : Source n t → Input
  | window s => .address t s.start
  | scalar v => .value t v

/-- Two leaves that differ in nothing but the value or the address: windows with the same strides,
or scalars. -/
inductive Alike : Source n t → Source n t → Prop where
  | window {s u : Span t n} (strides : s.strides = u.strides) : Alike (.window s) (.window u)
  | scalar (v w : t.Elem) : Alike (.scalar v) (.scalar w)

theorem arguments_input [Numerics] (a : Source n t) : a.input.arguments = a.arguments := by
  cases a <;> rfl

theorem Alike.input {a b : Source n t} (alike : a.Alike b) : a.input.Alike b.input := by
  cases alike with
  | window => exact .address t _ _
  | scalar v w => exact .value t v w

end Source

namespace Term

def inputs (k : Kernel n t) : List Input :=
  k.leaves.map fun a => a.2.input

theorem arguments_inputs [Numerics] (k : Kernel n t) :
    (inputs k).flatMap Input.arguments = arguments k := by
  simp only [inputs, arguments, List.flatMap_map, Source.arguments_input]

/-- Two kernels of one skeleton: the same operations and casts over leaves that differ in nothing
but values and addresses. -/
def Alike (k k' : Kernel n t) : Prop :=
  Pair (fun _ => Source.Alike) k k'

theorem Alike.inputs {k k' : Kernel n t} (alike : Term.Alike k k') :
    List.Forall₂ Input.Alike (inputs k) (inputs k') := by
  unfold Alike at alike
  induction alike with
  | leaf related => exact .cons related.input .nil
  | binary op _ _ ihl ihr =>
    simp only [Term.inputs, leaves, List.map_append]
    exact List.rel_append ihl ihr
  | unary op _ ih => exact ih
  | cast t _ ih => exact ih

end Term

namespace KernelSource

/-- Two sources from which the same text is made. -/
structure Alike (src src' : KernelSource) : Prop where
  parameters : src.parameters = src'.parameters
  arguments : List.Forall₂ Argument.Alike src.arguments src'.arguments
  pointerCount : src.pointerCount = src'.pointerCount
  scalarCount : src.scalarCount = src'.scalarCount
  headers : src.headers = src'.headers

section
variable {src src' : KernelSource} (alike : src.Alike src')
include alike

theorem Alike.require (t : DType) : (src.require t).Alike (src'.require t) where
  parameters := by simpa using alike.parameters
  arguments := by simpa using alike.arguments
  pointerCount := by simpa using alike.pointerCount
  scalarCount := by simpa using alike.scalarCount
  headers := by
    unfold KernelSource.require
    rw [alike.headers]
    split
    · split
      · exact alike.headers
      · rfl
    · exact alike.headers

-- What each call does to two such sources: the results are the same, and so is the text that is
-- made later.

theorem Alike.pushPointer (a b : Address) :
    (src.pushPointer t a).1 = (src'.pushPointer t b).1 ∧
      (src.pushPointer t a).2.Alike (src'.pushPointer t b).2 := by
  obtain ⟨parameters, arguments, pointers, scalars, headers⟩ := alike
  refine ⟨by simp only [KernelSource.pushPointer, pointers], Alike.require ⟨?_, ?_, ?_, ?_, ?_⟩ t⟩
  · simp only [parameters, pointers]
  · exact List.rel_append arguments (.cons (.address t a b) .nil)
  · simp only [pointers]
  · exact scalars
  · exact headers

theorem Alike.pushWord (v w : UInt64) :
    (src.pushWord v).1 = (src'.pushWord w).1 ∧ (src.pushWord v).2.Alike (src'.pushWord w).2 := by
  obtain ⟨parameters, arguments, pointers, scalars, headers⟩ := alike
  refine ⟨by simp only [KernelSource.pushWord, scalars], ?_, ?_, pointers, ?_, headers⟩
  · simp only [KernelSource.pushWord, parameters, scalars]
  · exact List.rel_append arguments (.cons (.word v w) .nil)
  · simp only [KernelSource.pushWord, scalars]

-- How many words a scalar takes depends on its type.
theorem Alike.pushScalar [Numerics] (v w : t.Elem) :
    (src.pushScalar t v).1 = (src'.pushScalar t w).1 ∧
      (src.pushScalar t v).2.Alike (src'.pushScalar t w).2 := by
  obtain ⟨first, alike⟩ := (alike.require t).pushWord (kernelWords t v).1 (kernelWords t w).1
  unfold KernelSource.pushScalar
  by_cases complex : t.isComplex
  · obtain ⟨second, alike⟩ := alike.pushWord (kernelWords t v).2 (kernelWords t w).2
    simp only [complex, ↓reduceIte, first, second]
    exact ⟨trivial, alike⟩
  · by_cases integral : t.isIntegral
    · simp only [complex, integral, Bool.false_eq_true, ↓reduceIte, first]
      exact ⟨trivial, alike⟩
    · simp only [complex, integral, Bool.false_eq_true, ↓reduceIte, first]
      exact ⟨trivial, alike⟩

end

end KernelSource

theorem Source.Alike.emit [Numerics] {a b : Source n t} (leaves : a.Alike b)
    {src src' : KernelSource} (alike : src.Alike src') :
    (a.emit src).1 = (b.emit src').1 ∧ (a.emit src).2.Alike (b.emit src').2 := by
  cases leaves with
  | @window s u strides =>
    obtain ⟨array, alike⟩ := alike.pushPointer (t := t) s.start u.start
    simp only [Source.emit, array, strides]
    exact ⟨trivial, alike⟩
  | scalar v w => exact alike.pushScalar v w

theorem Term.Alike.emit [Numerics] {k k' : Kernel n t} (terms : Term.Alike k k')
    {src src' : KernelSource} (alike : src.Alike src') :
    (Term.emit k src).1 = (Term.emit k' src').1 ∧
      (Term.emit k src).2.Alike (Term.emit k' src').2 := by
  unfold Term.Alike at terms
  induction terms generalizing src src' with
  | leaf related => exact related.emit alike
  | binary op _ _ ihl ihr =>
    obtain ⟨left, alike⟩ := ihl alike
    obtain ⟨right, alike⟩ := ihr alike
    simp only [Term.emit, left, right]
    exact ⟨trivial, alike⟩
  | unary op _ ih =>
    obtain ⟨operand, alike⟩ := ih alike
    simp only [Term.emit, operand]
    exact ⟨trivial, alike⟩
  | cast t _ ih =>
    obtain ⟨operand, alike⟩ := ih (alike.require t)
    simp only [Term.emit, operand]
    exact ⟨trivial, alike⟩

inductive Request where
  | require (t : DType)
  | pointer (t : DType) (a : Address)
  | scalar (t : DType) (v : t.Elem)
  | kernel (k : AnyKernel)

namespace Request

def serve [Numerics] (src : KernelSource) : Request → KernelSource
  | require t => src.require t
  | pointer t a => (src.pushPointer t a).2
  | scalar t v => (src.pushScalar t v).2
  | kernel k => (Term.emit k.kernel src).2

def inputs : Request → List Input
  | require _ => []
  | pointer t a => [.address t a]
  | scalar t v => [.value t v]
  | kernel k => Term.inputs k.kernel

/-- Two calls that differ in nothing but values and addresses. -/
inductive Alike : Request → Request → Prop where
  | require (t : DType) : Alike (.require t) (.require t)
  | pointer (t : DType) (a b : Address) : Alike (.pointer t a) (.pointer t b)
  | scalar (t : DType) (v w : t.Elem) : Alike (.scalar t v) (.scalar t w)
  | kernel {n : Nat} {t : DType} {k k' : Kernel n t} (terms : Term.Alike k k') :
    Alike (.kernel ⟨n, t, k⟩) (.kernel ⟨n, t, k'⟩)

theorem arguments_serve [Numerics] (src : KernelSource) (call : Request) :
    (call.serve src).arguments = src.arguments ++ call.inputs.flatMap Input.arguments := by
  cases call with
  | require t => simp [serve, inputs]
  | pointer t a => simp [serve, inputs, KernelSource.pushPointer, Input.arguments]
  | scalar t v =>
    simp only [serve, inputs, List.flatMap_singleton, Input.arguments]
    exact KernelSource.arguments_pushScalar v src
  | kernel k => rw [serve, inputs, Term.arguments_emit, Term.arguments_inputs]

theorem Alike.inputs {call call' : Request} (calls : call.Alike call') :
    List.Forall₂ Input.Alike call.inputs call'.inputs := by
  cases calls with
  | require t => exact .nil
  | pointer t a b => exact .cons (.address t a b) .nil
  | scalar t v w => exact .cons (.value t v w) .nil
  | kernel terms => exact terms.inputs

theorem Alike.serve [Numerics] {call call' : Request} (calls : call.Alike call')
    {src src' : KernelSource} (alike : src.Alike src') :
    (call.serve src).Alike (call'.serve src') := by
  cases calls with
  | require t => exact alike.require t
  | pointer t a b => exact (alike.pushPointer a b).2
  | scalar t v w => exact (alike.pushScalar v w).2
  | kernel terms => exact (terms.emit alike).2

end Request

namespace KernelSource

def after [Numerics] (calls : List Request) : KernelSource :=
  calls.foldl Request.serve empty

theorem after_append_singleton [Numerics] (calls : List Request) (call : Request) :
    after (calls ++ [call]) = call.serve (after calls) :=
  List.foldl_concat Request.serve empty call calls

theorem arguments_after [Numerics] (calls : List Request) :
    (after calls).arguments = (calls.flatMap Request.inputs).flatMap Input.arguments := by
  induction calls using List.reverseRecOn with
  | nil => rfl
  | append_singleton calls call ih =>
    rw [after_append_singleton, Request.arguments_serve, ih, List.flatMap_append,
      List.flatMap_append, List.flatMap_singleton]

theorem args_after [Numerics] (home : Nat → UInt64) (calls : List Request) :
    (after calls).args home = (calls.flatMap Request.inputs).flatMap (Input.words home) := by
  rw [args, arguments_after, List.map_flatMap]
  rfl

section
variable {calls calls' : List Request} (history : List.Forall₂ Request.Alike calls calls')
include history

theorem alike_foldl [Numerics] {src src' : KernelSource} (alike : src.Alike src') :
    (calls.foldl Request.serve src).Alike (calls'.foldl Request.serve src') := by
  induction history generalizing src src' with
  | nil => exact alike
  | cons head _ ih => exact ih (head.serve alike)

theorem alike_after [Numerics] : (after calls).Alike (after calls') :=
  alike_foldl history ⟨rfl, .nil, rfl, rfl, rfl⟩

theorem alike_inputs :
    List.Forall₂ Input.Alike (calls.flatMap Request.inputs) (calls'.flatMap Request.inputs) := by
  induction history with
  | nil => exact .nil
  | cons head _ ih =>
    rw [List.flatMap_cons, List.flatMap_cons]
    exact List.rel_append head.inputs ih

end

theorem Alike.template {src src' : KernelSource} (alike : src.Alike src') {m : Nat}
    (p : LaunchPlan m) (body : String) : src.template p body = src'.template p body := by
  unfold KernelSource.template declarations
  rw [alike.parameters, alike.headers]

-- A kernel is one call more.
theorem args_emit [Numerics] (home : Nat → UInt64) (before : List Request) (k : Kernel n t) :
    (Term.emit k (after before)).2.args home =
      (before.flatMap Request.inputs ++ Term.inputs k).flatMap (Input.words home) := by
  have words := args_after home (before ++ [.kernel ⟨n, t, k⟩])
  rwa [after_append_singleton, List.flatMap_append, List.flatMap_singleton] at words

/-- After calls of one structure, kernels of one skeleton have the same code, and so has all that is
rendered with it. The arguments are the words of the inputs, and where they differ the words of one
input do. -/
theorem emit_alike [Numerics] {before before' : List Request} {k k' : Kernel n t}
    (history : List.Forall₂ Request.Alike before before') (same : Term.Alike k k')
    (home home' : Nat → UInt64) :
    ∃ e src src', Term.emit k (after before) = (e, src) ∧ Term.emit k' (after before') = (e, src') ∧
      src.declarations = src'.declarations ∧
      src.headers = src'.headers ∧
      (∀ (digest : String → UInt64) m (p : LaunchPlan m) (body : String),
        src.kernelName digest p body = src'.kernelName digest p body ∧
          src.render digest p body = src'.render digest p body) ∧
      ∃ inputs inputs', inputs = before.flatMap Request.inputs ++ Term.inputs k ∧
        inputs' = before'.flatMap Request.inputs ++ Term.inputs k' ∧
        src.args home = inputs.flatMap (Input.words home) ∧
        src'.args home' = inputs'.flatMap (Input.words home') ∧
        (src.args home).length = (src'.args home').length ∧
        ∀ position, (src.args home)[position]? ≠ (src'.args home')[position]? →
          ∃ j x y r, inputs[j]? = some x ∧ inputs'[j]? = some y ∧
            position = ((inputs.take j).flatMap (Input.words home)).length + r ∧
            (src.args home)[position]? = (x.words home)[r]? ∧
            (src'.args home')[position]? = (y.words home')[r]? := by
  obtain ⟨code, alike⟩ := same.emit (alike_after history)
  have inputs : List.Forall₂ Input.Alike (before.flatMap Request.inputs ++ Term.inputs k)
      (before'.flatMap Request.inputs ++ Term.inputs k') :=
    List.rel_append (alike_inputs history) same.inputs
  refine ⟨_, _, (Term.emit k' (after before')).2, rfl, Prod.ext code.symm rfl,
    congrArg (List.map Parameter.text) alike.parameters, alike.headers, ?_, _, _, rfl, rfl,
    args_emit home before k, args_emit home' before' k', ?_, ?_⟩
  · intro digest m p body
    have name : (Term.emit k (after before)).2.kernelName digest p body =
        (Term.emit k' (after before')).2.kernelName digest p body := by
      rw [kernelName, kernelName, alike.template]
    refine ⟨name, ?_⟩
    rw [render, render, alike.template, name]
  · rw [args, args, List.length_map, List.length_map, alike.arguments.length_eq]
  · intro position differ
    rw [args_emit, args_emit] at differ ⊢
    exact Input.exists_block inputs differ

/-- A column that runs backwards through a buffer, times a number. -/
def scaledColumn (base : Base) (factor : Int32) : Kernel 2 .i32 :=
  .binary .mul (.leaf (.window { reversedColumn with start := ⟨base, 2⟩ }))
    (.leaf (.scalar (t := .i32) factor))

/-- Both read `p1[(long long)i0 * -1LL + (long long)i1 * 5LL]`. The buffer and the factor of the
second are other ones. -/
theorem emit_alike_scaledColumn :
    let before := [.pointer .i32 (.start (.buffer 0))]
    let home : Nat → UInt64 := fun number => 4096 * .ofNat number
    List.Forall₂ Request.Alike before before ∧
      Term.Alike (scaledColumn (.buffer 1) 7) (scaledColumn (.buffer 2) (-7)) ∧
      ∃ e src src', Term.emit (scaledColumn (.buffer 1) 7) (after before) = (e, src) ∧
        Term.emit (scaledColumn (.buffer 2) (-7)) (after before) = (e, src') ∧
        (∀ (digest : String → UInt64) m (p : LaunchPlan m) (body : String),
          src.render digest p body = src'.render digest p body) ∧
        src.args home = [0, 4104, 7] ∧
        src'.args home = [0, 8200, 18446744073709551609] := by
  intro before home
  have history : List.Forall₂ Request.Alike before before := .cons (.pointer _ _ _) .nil
  have same : Term.Alike (scaledColumn (.buffer 1) 7) (scaledColumn (.buffer 2) (-7)) :=
    .binary .mul (.leaf (.window rfl)) (.leaf (.scalar _ _))
  obtain ⟨e, src, src', emitted, emitted', -, -, texts, -⟩ := emit_alike history same home home
  refine ⟨history, same, e, src, src', emitted, emitted',
    fun digest m p body => (texts digest m p body).2, ?_, ?_⟩
  · obtain rfl := (congrArg Prod.snd emitted).symm
    rfl
  · obtain rfl := (congrArg Prod.snd emitted').symm
    rfl

end KernelSource

end Strided
