import Mathlib.Data.List.Nodup
import Strided.Proofs.Rendering
import Strided.Proofs.Wording

/-! A rendered kernel declares all that it names.

Parameters are only ever added, under names that were not there before, so a name that an
expression was rendered with stays declared. The types that an expression names are those of its
leaves and casts, and rendering asks for their headers when it comes to them. What holds of names
and types in an expression is read off its text word by word.
-/

set_option autoImplicit false

namespace Strided

variable {n : Nat} {t : DType}

namespace Parameter

/-- What stands before the name of a parameter where it is declared. -/
def declared : Parameter → String
  | pointer t _ => t.cName ++ "* "
  | word _ => "long long "

theorem text_eq (p : Parameter) : p.text = p.declared ++ p.name.text := by
  cases p <;> rfl

end Parameter

def Argument.declared : Argument → String
  | address t _ => t.cName ++ "* "
  | word _ => "long long "

namespace KernelSource

def names (src : KernelSource) : List CName :=
  src.parameters.map Parameter.name

section
variable {pointers scalars : Nat} {args : List Argument}

theorem declared_numbered :
    (numbered pointers scalars args).map Parameter.declared = args.map Argument.declared := by
  induction args generalizing pointers scalars with
  | nil => rfl
  | cons arg args ih => cases arg <;> exact congrArg _ ih

theorem mem_name_numbered {x : CName}
    (member : x ∈ (numbered pointers scalars args).map Parameter.name) :
    (∃ k, pointers ≤ k ∧ x = .pointer k) ∨ ∃ k, scalars ≤ k ∧ x = .scalar k := by
  induction args generalizing pointers scalars with
  | nil => cases member
  | cons arg args ih =>
    cases arg with
    | address t a =>
      rcases List.mem_cons.1 member with rfl | later
      · exact .inl ⟨pointers, Nat.le_refl _, rfl⟩
      · rcases ih later with ⟨k, above, rfl⟩ | scalar
        · exact .inl ⟨k, Nat.le_of_succ_le above, rfl⟩
        · exact .inr scalar
    | word w =>
      rcases List.mem_cons.1 member with rfl | later
      · exact .inr ⟨scalars, Nat.le_refl _, rfl⟩
      · rcases ih later with pointer | ⟨k, above, rfl⟩
        · exact .inl pointer
        · exact .inr ⟨k, Nat.le_of_succ_le above, rfl⟩

theorem nodup_name_numbered : ((numbered pointers scalars args).map Parameter.name).Nodup := by
  induction args generalizing pointers scalars with
  | nil => exact List.nodup_nil
  | cons arg args ih =>
    cases arg with
    | address t a =>
      refine List.nodup_cons.2 ⟨fun member => ?_, ih⟩
      obtain ⟨k, above, same⟩ | ⟨k, -, same⟩ := mem_name_numbered member
      · cases same
        exact Nat.not_succ_le_self _ above
      · cases same
    | word w =>
      refine List.nodup_cons.2 ⟨fun member => ?_, ih⟩
      obtain ⟨k, -, same⟩ | ⟨k, above, same⟩ := mem_name_numbered member
      · cases same
      · cases same
        exact Nat.not_succ_le_self _ above

theorem exists_address {x : CName} (member : .pointer t x ∈ numbered pointers scalars args) :
    ∃ a, .address t a ∈ args := by
  induction args generalizing pointers scalars with
  | nil => cases member
  | cons arg args ih =>
    cases arg with
    | address s b =>
      rcases List.mem_cons.1 member with same | later
      · cases same
        exact ⟨b, List.mem_cons_self⟩
      · exact (ih later).imp fun _ => List.mem_cons_of_mem _
    | word w =>
      rcases List.mem_cons.1 member with same | later
      · cases same
      · exact (ih later).imp fun _ => List.mem_cons_of_mem _

end

section
variable {src : KernelSource} (aligned : src.Aligned)
include aligned

theorem Aligned.isParameter {x : CName} (member : x ∈ src.names) : x.IsParameter := by
  rw [names, aligned.parameters] at member
  obtain ⟨k, -, rfl⟩ | ⟨k, -, rfl⟩ := mem_name_numbered member
  · exact .pointer k
  · exact .scalar k

theorem Aligned.nodup_text_names : (src.names.map CName.text).Nodup := by
  have distinct : src.names.Nodup := by
    rw [names, aligned.parameters]
    exact nodup_name_numbered
  exact distinct.map_on fun x first y second same =>
    (aligned.isParameter first).text_inj (aligned.isParameter second) same

/-- Each argument has a parameter of its kind, under a name of its own. -/
theorem Aligned.declarations_eq :
    src.declarations = List.zipWith (fun arg name => arg.declared ++ name) src.arguments
      (src.names.map CName.text) := by
  have declared : src.parameters.map Parameter.declared = src.arguments.map Argument.declared := by
    rw [aligned.parameters, declared_numbered]
  have texts (ps : List Parameter) : ps.map Parameter.text =
      List.zipWith (· ++ ·) (ps.map Parameter.declared) (ps.map fun p => p.name.text) := by
    simp only [List.zipWith_map, List.zipWith_self, ← Parameter.text_eq]
  rw [declarations, texts, declared, names, List.zipWith_map_left, List.map_map]
  rfl

theorem Aligned.length_names : src.names.length = src.arguments.length := by
  rw [names, List.length_map, aligned.parameters, length_numbered]

end

end KernelSource

theorem elem_mem {types : List DType} (member : t ∈ types) (s : DType)
    (same : CType.elem t = .elem s) : s ∈ types :=
  CType.elem.inj same ▸ member

section
variable {names : List CName} {types : List DType}

theorem over_offset (strides : List Int) : (KernelSource.offset strides).Over names types := by
  apply CExpr.over_sum
  simp only [List.forall_mem_map]
  intro p _
  exact ⟨⟨nofun, nofun⟩, trivial⟩

variable (member : t ∈ types)
include member

theorem BinaryOp.over_render (op : BinaryOp) {l r : CExpr} (left : l.Over names types)
    (right : r.Over names types) : (op.render t l r).Over names types := by
  have known := elem_mem member
  unfold render
  split
  · split
    · exact ⟨⟨right, trivial⟩, ⟨known, trivial⟩, known, left, right⟩
    · exact ⟨known, left, right⟩
  · exact ⟨left, right⟩

theorem UnaryOp.over_render (op : UnaryOp) {e : CExpr} (formed : e.Over names types) :
    (op.render t e).Over names types := by
  have known := elem_mem member
  unfold render
  split
  · exact formed
  · split
    · exact ⟨member, formed⟩
    · exact ⟨known, nofun, formed⟩

theorem over_renderCast (s : DType) {e : CExpr} (formed : e.Over names types) :
    (renderCast s t e).Over names types := by
  have known := elem_mem member
  unfold renderCast
  split
  · split
    · exact ⟨member, formed, formed⟩
    · exact ⟨known, formed⟩
  · exact ⟨known, formed⟩

end

def Source.arguments [Numerics] : Source n t → List Argument
  | window s => [.address t s.start]
  | scalar v =>
    let (first, second) := kernelWords t v
    if t.isComplex then [.word first, .word second] else [.word first]

namespace Term

/-- The element types of the leaves and casts, as rendering comes to them. -/
def types {L : DType → Type} : {t : DType} → Term L t → List DType
  | t, leaf _ => [t]
  | _, binary _ l r => l.types ++ r.types
  | _, unary _ e => e.types
  | t, cast _ e => t :: e.types

def arguments [Numerics] (k : Kernel n t) : List Argument :=
  k.leaves.flatMap fun a => a.2.arguments

theorem mem_types {L : DType → Type} (k : Term L t) : t ∈ k.types := by
  induction k with
  | leaf => exact List.mem_cons_self
  | binary _ _ _ ihl _ => exact List.mem_append_left _ ihl
  | unary _ _ ih => exact ih
  | cast => exact List.mem_cons_self

end Term

namespace KernelSource

theorem mem_headers_require {src : KernelSource} {h : Header} :
    h ∈ (src.require t).headers ↔ h ∈ src.headers ∨ t.header = some h := by
  unfold require
  split
  · rename_i h' needed
    split
    · rename_i present
      rw [needed, Option.some.injEq, or_iff_left_of_imp]
      rintro rfl
      exact present
    · simp [needed, eq_comm]
  · rename_i none
    simp [none]

theorem nodup_headers_require {src : KernelSource} (distinct : src.headers.Nodup) :
    (src.require t).headers.Nodup := by
  unfold require
  split
  · split
    · exact distinct
    · rename_i absent
      exact List.nodup_append'.2 ⟨distinct, List.nodup_singleton _,
        List.disjoint_singleton.2 absent⟩
  · exact distinct

theorem headers_pushPointer (a : Address) (src : KernelSource) :
    (src.pushPointer t a).2.headers = (src.require t).headers := by
  simp only [pushPointer, require]
  split
  · split <;> rfl
  · rfl

theorem headers_pushScalar [Numerics] (v : t.Elem) (src : KernelSource) :
    (src.pushScalar t v).2.headers = (src.require t).headers := by
  unfold pushScalar
  by_cases complex : t.isComplex
  · simp [complex, pushWord]
  · by_cases integral : t.isIntegral <;> simp [complex, integral, pushWord]

theorem arguments_pushScalar [Numerics] (v : t.Elem) (src : KernelSource) :
    (src.pushScalar t v).2.arguments =
      src.arguments ++ (Source.scalar v : Source n t).arguments := by
  unfold pushScalar
  by_cases complex : t.isComplex
  · simp [complex, pushWord, Source.arguments]
  · by_cases integral : t.isIntegral <;> simp [complex, integral, pushWord, Source.arguments]

-- A name stays declared.
theorem Leads.names_subset {src final : KernelSource} (leads : Leads src final) :
    src.names ⊆ final.names := by
  obtain ⟨rest, same⟩ := leads.prefixes.1
  rw [names, names, ← same, List.map_append]
  exact List.subset_append_left _ _

theorem pointer_mem_names (t : DType) (a : Address) (src : KernelSource) :
    .pointer src.pointerCount ∈ (src.pushPointer t a).2.names := by
  simp [names, pushPointer, Parameter.name]

theorem scalar_mem_names (w : UInt64) (src : KernelSource) :
    .scalar src.scalarCount ∈ (src.pushWord w).2.names := by
  simp [names, pushWord, Parameter.name]

theorem over_pushScalar [Numerics] (v : t.Elem) (src : KernelSource) :
    (src.pushScalar t v).1.Over (src.pushScalar t v).2.names [t] := by
  have known := elem_mem (List.mem_singleton_self t)
  have first := scalar_mem_names (kernelWords t v).1 (src.require t)
  unfold pushScalar
  by_cases complex : t.isComplex
  · have second := scalar_mem_names (kernelWords t v).2
      ((src.require t).pushWord (kernelWords t v).1).2
    simp only [complex, ↓reduceIte]
    have kept := (Call.word (kernelWords t v).2 _).leads.names_subset first
    exact ⟨List.mem_cons_self, fun _ => kept, fun _ => second⟩
  · by_cases integral : t.isIntegral
    · simp only [complex, integral, Bool.false_eq_true, ↓reduceIte]
      exact ⟨known, fun _ => first⟩
    · simp only [complex, integral, Bool.false_eq_true, ↓reduceIte]
      exact ⟨known, fun _ => first⟩

end KernelSource

namespace Source

variable [Numerics]

theorem headers_emit (a : Source n t) (src : KernelSource) :
    (a.emit src).2.headers = (src.require t).headers := by
  cases a with
  | window s => exact KernelSource.headers_pushPointer s.start src
  | scalar v => exact KernelSource.headers_pushScalar v src

theorem arguments_emit (a : Source n t) (src : KernelSource) :
    (a.emit src).2.arguments = src.arguments ++ a.arguments := by
  cases a with
  | window s => simp [emit, KernelSource.pushPointer, arguments]
  | scalar v => exact KernelSource.arguments_pushScalar v src

theorem over_emit (a : Source n t) (src : KernelSource) :
    (a.emit src).1.Over (a.emit src).2.names [t] := by
  cases a with
  | window s =>
    exact ⟨fun _ => KernelSource.pointer_mem_names t s.start src, over_offset _⟩
  | scalar v => exact KernelSource.over_pushScalar v src

theorem eq_of_address {a : Source n t} {s : DType} {address : Address}
    (member : .address s address ∈ a.arguments) : s = t := by
  cases a with
  | window s =>
    cases List.mem_singleton.1 member
    rfl
  | scalar v =>
    simp only [arguments] at member
    split at member <;> simp at member

end Source

namespace Term

variable [Numerics]

theorem arguments_emit (k : Kernel n t) (src : KernelSource) :
    (Term.emit k src).2.arguments = src.arguments ++ Term.arguments k := by
  induction k generalizing src with
  | leaf a => simp [emit, arguments, leaves, Source.arguments_emit]
  | binary op l r ihl ihr =>
    change (Term.emit r (Term.emit l src).2).2.arguments = _
    simp [ihl, ihr, arguments, leaves]
  | unary op e ih => exact ih src
  | cast t e ih =>
    change (Term.emit e (src.require t)).2.arguments = _
    rw [ih, KernelSource.arguments_require]
    rfl

theorem mem_headers_emit (k : Kernel n t) {src : KernelSource} {h : Header} :
    h ∈ (Term.emit k src).2.headers ↔ h ∈ src.headers ∨ ∃ s ∈ k.types, s.header = some h := by
  induction k generalizing src with
  | leaf a =>
    change h ∈ (a.emit src).2.headers ↔ _
    rw [Source.headers_emit, KernelSource.mem_headers_require]
    simp [types]
  | binary op l r ihl ihr =>
    change h ∈ (Term.emit r (Term.emit l src).2).2.headers ↔ _
    rw [ihr, ihl]
    simp [types, or_and_right, exists_or, or_assoc]
  | unary op e ih => exact ih
  | cast t e ih =>
    change h ∈ (Term.emit e (src.require t)).2.headers ↔ _
    rw [ih, KernelSource.mem_headers_require]
    simp [types, or_assoc]

theorem nodup_headers_emit (k : Kernel n t) {src : KernelSource} (distinct : src.headers.Nodup) :
    (Term.emit k src).2.headers.Nodup := by
  induction k generalizing src with
  | leaf a =>
    change (a.emit src).2.headers.Nodup
    rw [Source.headers_emit]
    exact KernelSource.nodup_headers_require distinct
  | binary op l r ihl ihr => exact ihr (ihl distinct)
  | unary op e ih => exact ih distinct
  | cast t e ih => exact ih (KernelSource.nodup_headers_require distinct)

-- An operand is rendered before the others, and what it names stays declared.
theorem over_emit (k : Kernel n t) (src : KernelSource) :
    (Term.emit k src).1.Over (Term.emit k src).2.names k.types := by
  induction k generalizing src with
  | leaf a => exact a.over_emit src
  | binary op l r ihl ihr =>
    have kept := KernelSource.Leads.names_subset (Term.leads_emit r (Term.emit l src).2)
    have left := (ihl src).mono kept (List.subset_append_left l.types r.types)
    have right := (ihr (Term.emit l src).2).mono (List.Subset.refl _)
      (List.subset_append_right l.types r.types)
    exact BinaryOp.over_render (List.mem_append_left _ l.mem_types) op left right
  | unary op e ih => exact UnaryOp.over_render e.mem_types op (ih src)
  | @cast s t e ih =>
    have operand := (ih (src.require t)).mono (List.Subset.refl _) (List.subset_cons_self t e.types)
    exact over_renderCast List.mem_cons_self s operand

theorem mem_types_of_address (k : Kernel n t) {s : DType} {address : Address}
    (member : .address s address ∈ Term.arguments k) : s ∈ k.types := by
  induction k with
  | leaf a =>
    have own : .address s address ∈ a.arguments := by simpa [arguments, leaves] using member
    exact List.mem_singleton.2 (Source.eq_of_address own)
  | binary op l r ihl ihr =>
    have parts : .address s address ∈ Term.arguments l ++ Term.arguments r := by
      simpa [arguments, leaves] using member
    exact List.mem_append.2 ((List.mem_append.1 parts).imp ihl ihr)
  | unary op e ih => exact ih member
  | cast t e ih => exact List.mem_cons_of_mem t (ih member)

end Term

/-- A kernel of any rank and element type. -/
structure AnyKernel where
  rank : Nat
  elem : DType
  kernel : Kernel rank elem

namespace AnyKernel

def arguments [Numerics] (k : AnyKernel) : List Argument :=
  Term.arguments k.kernel

def types (k : AnyKernel) : List DType :=
  k.kernel.types

end AnyKernel

namespace KernelSource

/-- Render kernels one after the other, all with parameters of one list. -/
def emitAll [Numerics] : List AnyKernel → KernelSource → List CExpr × KernelSource
  | [], src => ([], src)
  | k :: ks, src =>
    let (e, src) := Term.emit k.kernel src
    let (es, src) := emitAll ks src
    (e :: es, src)

theorem leads_emitAll [Numerics] (ks : List AnyKernel) (src : KernelSource) :
    Leads src (emitAll ks src).2 := by
  induction ks generalizing src with
  | nil => exact .refl
  | cons k ks ih => exact (Term.leads_emit k.kernel src).trans (ih _)

theorem arguments_emitAll [Numerics] (ks : List AnyKernel) (src : KernelSource) :
    (emitAll ks src).2.arguments = src.arguments ++ ks.flatMap AnyKernel.arguments := by
  induction ks generalizing src with
  | nil => exact (List.append_nil _).symm
  | cons k ks ih =>
    change (emitAll ks (Term.emit k.kernel src).2).2.arguments = _
    rw [ih, Term.arguments_emit, List.flatMap_cons, List.append_assoc]
    rfl

theorem mem_headers_emitAll [Numerics] (ks : List AnyKernel) {src : KernelSource} {h : Header} :
    h ∈ (emitAll ks src).2.headers ↔
      h ∈ src.headers ∨ ∃ t ∈ ks.flatMap AnyKernel.types, t.header = some h := by
  induction ks generalizing src with
  | nil => simp [emitAll]
  | cons k ks ih =>
    change h ∈ (emitAll ks (Term.emit k.kernel src).2).2.headers ↔ _
    rw [ih, Term.mem_headers_emit, List.flatMap_cons]
    simp only [List.mem_append, or_and_right, exists_or, or_assoc]
    rfl

theorem nodup_headers_emitAll [Numerics] (ks : List AnyKernel) {src : KernelSource}
    (distinct : src.headers.Nodup) : (emitAll ks src).2.headers.Nodup := by
  induction ks generalizing src with
  | nil => exact distinct
  | cons k ks ih => exact ih (k.kernel.nodup_headers_emit distinct)

theorem over_emitAll [Numerics] (ks : List AnyKernel) (src : KernelSource) :
    ∀ e ∈ (emitAll ks src).1,
      e.Over (emitAll ks src).2.names (ks.flatMap AnyKernel.types) := by
  induction ks generalizing src with
  | nil => nofun
  | cons k ks ih =>
    have later := ih (Term.emit k.kernel src).2
    have kept := (leads_emitAll ks (Term.emit k.kernel src).2).names_subset
    refine List.forall_mem_cons.2 ⟨?_, fun e member => ?_⟩
    · exact (k.kernel.over_emit src).mono kept (List.subset_append_left k.types _)
    · exact (later e member).mono (List.Subset.refl _) (List.subset_append_right k.types _)

theorem speaks_declarations {src : KernelSource} {types : List DType}
    (typed : ∀ t x, .pointer t x ∈ src.parameters → t ∈ types) (aligned : src.Aligned) :
    ∀ s ∈ src.declarations, Speaks src.names types s := by
  refine List.forall_mem_map.2 fun p member => ?_
  have known : p.name ∈ src.names := List.mem_map_of_mem member
  have name : Speaks src.names types p.name.text := .parameter (aligned.isParameter known) known
  cases p with
  | pointer t x =>
    have type : Speaks src.names types (t.cName ++ "* ") :=
      .append (.inr rfl) (.cName (typed t x member)) (.plain rfl)
    exact .append (.inl (Text.opens_append _ rfl)) type name
  | word x => exact .append (.inl rfl) (.plain rfl) name

theorem speaks_emitAll [Numerics] (ks : List AnyKernel) :
    ∀ s ∈ (emitAll ks .empty).1.map CExpr.text ++ (emitAll ks .empty).2.declarations,
      Speaks (emitAll ks .empty).2.names (ks.flatMap AnyKernel.types) s := by
  have aligned := Reached.aligned (leads_emitAll ks .empty)
  refine List.forall_mem_append.2 ⟨?_, speaks_declarations (fun t x member => ?_) aligned⟩
  · exact List.forall_mem_map.2 fun e member => (over_emitAll ks .empty e member).speaks
  · rw [aligned.parameters, arguments_emitAll] at member
    obtain ⟨a, listed⟩ := exists_address member
    obtain ⟨k, among, own⟩ := List.mem_flatMap.1 listed
    exact List.mem_flatMap.2 ⟨k, among, k.kernel.mem_types_of_address own⟩

end KernelSource

/-- Where allocated memory begins, as a number; the null buffer begins at 0. -/
def Base.origin (home : Nat → UInt64) : Base → Int
  | .null => 0
  | .buffer number => (home number).toNat
  | .foreign address => address.toNat

/-- A part of an element as a word: a whole number with its sign, or the bits of a double. -/
def Part.word : Part → UInt64
  | .whole k => .ofInt k
  | part => part.toDouble.toBits

/-- What a leaf passes to a kernel: how its parameters are declared, and the words that they stand
for. A window passes where its first cell lies in memory, a scalar its parts. -/
def Source.passes [Numerics] (home : Nat → UInt64) : Source n t → List (String × UInt64)
  | window s =>
    [(t.cName ++ "* ", .ofInt (s.start.base.origin home + s.start.cell * t.bytes))]
  | scalar v =>
    let (re, im) := t.parts v
    if t.isComplex then [("long long ", re.word), ("long long ", im.word)]
    else [("long long ", re.word)]

/-- What the leaves of a kernel pass, from left to right. -/
def AnyKernel.passes [Numerics] (home : Nat → UInt64) (k : AnyKernel) : List (String × UInt64) :=
  k.kernel.leaves.flatMap fun a => a.2.passes home

theorem ofInt_toNat (w : UInt64) : UInt64.ofInt w.toNat = w := by
  have kept : (w.toNat : Int) % 2 ^ 64 = w.toNat :=
    Int.emod_eq_of_lt (Int.natCast_nonneg _) (Int.ofNat_lt.2 w.toNat_lt)
  rw [UInt64.ofInt, kept, Int.toNat_natCast, UInt64.ofNat_toNat]

theorem Address.word_eq (home : Nat → UInt64) (t : DType) (a : Address) :
    a.word home t = .ofInt (a.base.origin home + a.cell * t.bytes) := by
  obtain ⟨base, cell⟩ := a
  cases base <;> simp [word, Base.origin, UInt64.ofInt_add, ofInt_toNat]

theorem kernelWords_eq [Numerics] (v : t.Elem) :
    (kernelWords t v).1 = (t.parts v).1.word ∧
      (t.isComplex → (kernelWords t v).2 = (t.parts v).2.word) := by
  refine ⟨by cases t <;> rfl, fun complex => ?_⟩
  cases t with
  | c32 | c64 => rfl
  | _ => cases complex

theorem Source.passes_eq [Numerics] (home : Nat → UInt64) (a : Source n t) :
    a.passes home = a.arguments.map fun arg => (arg.declared, arg.toWord home) := by
  cases a with
  | window s =>
    rw [arguments, List.map_singleton, Argument.declared, Argument.toWord, Address.word_eq]
    rfl
  | scalar v =>
    obtain ⟨first, second⟩ := kernelWords_eq v
    by_cases complex : t.isComplex
    · simp [passes, arguments, complex, Argument.declared, Argument.toWord, first, second complex]
    · simp [passes, arguments, complex, Argument.declared, Argument.toWord, first]

theorem AnyKernel.passes_eq [Numerics] (home : Nat → UInt64) (k : AnyKernel) :
    k.passes home = k.arguments.map fun arg => (arg.declared, arg.toWord home) := by
  simp only [passes, arguments, Term.arguments, List.map_flatMap, Source.passes_eq]

namespace KernelSource

/-- At every moment there are as many parameters as arguments. Kernels that are rendered from the
beginning on declare, in order, what their leaves pass, each under a name of its own, and the
arguments are the words that the leaves pass. Whatever reads as the name of a parameter in a text is
declared, and the headers of all types with a name in the texts are there, each of them once. -/
theorem emitAll_declares [Numerics] (home : Nat → UInt64) :
    (∀ src : KernelSource, src.Reached → src.declarations.length = (src.args home).length) ∧
    ∀ ks : List AnyKernel, ∃ es src names, emitAll ks .empty = (es, src) ∧ src.Reached ∧
      names.Nodup ∧ names.length = (ks.flatMap (AnyKernel.passes home)).length ∧
      src.declarations = List.zipWith (fun passed name => passed.1 ++ name)
        (ks.flatMap (AnyKernel.passes home)) names ∧
      src.args home = (ks.flatMap (AnyKernel.passes home)).map (·.2) ∧
      (∀ e ∈ es, ∀ w ∈ Text.words e.text, isParameterName w → w ∈ names) ∧
      (src.headers.map Header.text).Nodup ∧
      ∀ s ∈ es.map CExpr.text ++ src.declarations, ∀ (t : DType) (h : Header),
        t.header = some h → Text.words t.cName ⊆ Text.words s → h ∈ src.headers := by
  refine ⟨fun src reached => ?_, fun ks => ?_⟩
  · rw [declarations, args, List.length_map, List.length_map, reached.aligned.parameters,
      length_numbered]
  have reached : Reached (emitAll ks .empty).2 := leads_emitAll ks .empty
  have aligned := reached.aligned
  have arguments : (emitAll ks .empty).2.arguments = ks.flatMap AnyKernel.arguments :=
    arguments_emitAll ks .empty
  have passes : ks.flatMap (AnyKernel.passes home) =
      (ks.flatMap AnyKernel.arguments).map fun arg => (arg.declared, arg.toWord home) := by
    simp only [List.map_flatMap, ← AnyKernel.passes_eq]
  refine ⟨_, _, (emitAll ks .empty).2.names.map CName.text, rfl, reached,
    aligned.nodup_text_names, ?_, ?_, ?_, ?_, ?_, ?_⟩
  · rw [List.length_map, aligned.length_names, arguments, passes, List.length_map]
  · rw [aligned.declarations_eq, arguments, passes, List.zipWith_map_left]
  · rw [args, arguments, passes, List.map_map]
    rfl
  · intro e member w word
    exact (over_emitAll ks .empty e member).speaks.mem_names word
  · exact (nodup_headers_emitAll ks List.nodup_nil).map fun _ _ => Header.text_inj
  · intro s member t h needed named
    have mark := named (DType.mark_mem_words needed)
    rw [mem_headers_emitAll]
    exact .inr ((speaks_emitAll ks s member).exists_type (fun _ => aligned.isParameter) mark)

end KernelSource

end Strided
