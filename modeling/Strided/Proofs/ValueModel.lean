import Strided.Proofs.Lowering
import Strided.Proofs.Selection
import Strided.Workspace.Command

/-! Tensors as plain values.

In this model there is no memory. A name stands for a shape and a list of elements in column-major
order, some of which may be unspecified, or for a tensor that was moved from. Operations work on
these lists; nothing is shared between two names, and no length is kept twice.
-/

set_option autoImplicit false

namespace Strided

variable {t : DType} {n : Nat}

/-- What a tensor holds. An element that is missing from the list is unspecified. -/
structure Content (t : DType) (n : Nat) where
  shape : Shape n
  values : List (Option t.Elem)
  complete : values.length = shape.size

namespace Content

def ofFn (s : Shape n) (value : Index n → Option t.Elem) : Content t n :=
  ⟨s, s.indices.map value, by simp [Shape.indices_eq_map_unravel]⟩

def repeated (s : Shape n) (v : Option t.Elem) : Content t n :=
  ⟨s, .replicate s.size v, List.length_replicate⟩

def unspecified (s : Shape n) : Content t n :=
  repeated s none

def resize (s : Shape n) (c : Content t n) : Content t n where
  shape := s
  values := c.values.take s.size ++ .replicate (s.size - c.values.length) none
  complete := by
    rw [List.length_append, List.length_take, List.length_replicate]
    omega

def listed (s : Shape n) (data : List t.Elem) (length : s.size = data.length) : Content t n :=
  ⟨s, data.map some, by rw [List.length_map, length]⟩

def set (c : Content t n) (i : Index n) (v : t.Elem) : Content t n :=
  { c with
    values := c.values.set (c.shape.position i) (some v)
    complete := by rw [List.length_set, c.complete] }

/-- The value at a position, if there is one and it is specified. -/
def at? (c : Content t n) (k : Nat) : Option t.Elem :=
  (c.values[k]?).join

/-- A list of elements has every value that is specified. -/
def Describes (c : Content t n) (vs : List t.Elem) : Prop :=
  vs.length = c.values.length ∧
    ∀ (k : Nat) (v : t.Elem), c.values[k]? = some (some v) → vs[k]? = some v

-- There is only one list with every value where no value is missing.
theorem Describes.eq {c : Content t n} {vs data : List t.Elem} (describes : c.Describes vs)
    (all : c.values = data.map some) : vs = data := by
  obtain ⟨length, values⟩ := describes
  rw [all, List.length_map] at length
  refine List.ext_getElem length fun k below bound => ?_
  have given : c.values[k]? = some (some data[k]) := by
    rw [all, List.getElem?_map, List.getElem?_eq_getElem bound]
    rfl
  exact Option.some.inj ((List.getElem?_eq_getElem below).symm.trans (values k _ given))

section
variable {c : Content t n} {s : Shape n} {k : Nat}

theorem at?_eq_some_iff {v : t.Elem} : c.at? k = some v ↔ c.values[k]? = some (some v) :=
  Option.join_eq_some_iff

theorem lt_size_of_at? {v : t.Elem} (given : c.at? k = some v) : k < c.shape.size := by
  rw [← c.complete]
  exact (List.getElem?_eq_some_iff.1 (at?_eq_some_iff.1 given)).1

theorem at?_ofFn {value : Index n → Option t.Elem} :
    (ofFn s value).at? k = if k < s.size then value (s.unravel k) else none := by
  change ((s.indices.map value)[k]?).join = _
  rw [Shape.indices_eq_map_unravel, List.map_map, List.getElem?_map]
  split
  · rename_i below
    rw [List.getElem?_range below]
    rfl
  · rename_i beyond
    rw [List.getElem?_eq_none (by simpa using beyond)]
    rfl

theorem at?_repeated {v : Option t.Elem} :
    (repeated s v).at? k = if k < s.size then v else none := by
  rw [at?, repeated, List.getElem?_replicate]
  split <;> rfl

@[simp] theorem at?_unspecified : (unspecified s : Content t n).at? k = none := by
  rw [unspecified, at?_repeated, ite_self]

theorem at?_listed {data : List t.Elem} {length : s.size = data.length} :
    (listed s data length).at? k = data[k]? := by
  rw [at?, listed, List.getElem?_map]
  cases data[k]? <;> rfl

theorem at?_resize :
    (c.resize s).at? k = if k < min c.shape.size s.size then c.at? k else none := by
  rw [at?, resize, List.getElem?_append, List.length_take, c.complete, Nat.min_comm]
  split
  · rename_i below
    rw [List.getElem?_take_of_lt (by omega)]
    rfl
  · rw [List.getElem?_replicate]
    split <;> rfl

theorem at?_set {i : Index n} (inside : c.shape.Contains i) {v : t.Elem} :
    (c.set i v).at? k = if k = c.shape.position i then some v else c.at? k := by
  rw [at?, set, List.getElem?_set]
  split
  · rename_i same
    have below : c.shape.position i < c.values.length :=
      c.complete ▸ Shape.position_lt_size inside
    rw [if_pos below, if_pos same.symm]
    rfl
  · rename_i other
    rw [if_neg fun same => other same.symm]
    rfl

theorem ofFn_const (s : Shape n) (v : Option t.Elem) : ofFn s (fun _ => v) = repeated s v := by
  have length : s.indices.length = s.size := by simp [Shape.indices_eq_map_unravel]
  simp only [ofFn, repeated, List.map_const', length]

end

end Content

/-- Values by index, for an index in the shape. -/
structure ValueWindow (t : DType) (n : Nat) where
  shape : Shape n
  value : List Nat → Option t.Elem

def Content.window (c : Content t n) : ValueWindow t n :=
  ⟨c.shape, fun i => c.at? (Radix.value c.shape.toList i)⟩

/-- Select values: those of the indices to which a request sends the indices of its result. -/
def ValueWindow.slice (v : ValueWindow t n) (entries : List Slice) (m : Nat) :
    Except Error (ValueWindow t m) := do
  let (layout, _) ← (Layout.contiguous v.shape).slice entries m
  return ⟨layout.shape, fun j => v.value (Slice.source entries v.shape.toList j)⟩

structure AnyValueWindow (t : DType) where
  {rank : Nat}
  window : ValueWindow t rank

def AnyValueWindow.sliceAll (v : AnyValueWindow t) :
    List SliceStep → Except Error (AnyValueWindow t)
  | [] => .ok v
  | step :: rest => do
    let next ← v.window.slice step.entries step.rank
    AnyValueWindow.sliceAll ⟨next⟩ rest

/-- A leaf of an expression over values: an array, without values if it was moved from, or a
scalar. -/
inductive ValueLeaf (n : Nat) (t : DType) where
  | array (space : Space) (window : Option (ValueWindow t n))
  | scalar (v : t.Elem)

abbrev ValueExpr (n : Nat) (t : DType) := Term (ValueLeaf n) t

namespace ValueLeaf

def shape : ValueLeaf n t → Except Error (Shape n)
  | array _ (some v) => .ok v.shape
  | array _ none => .error (.movedFrom .tensor)
  | scalar _ => .ok .ones

def checkSpace (space : Space) : ValueLeaf n t → Except Error Unit
  | array home _ => if home = space then .ok () else .error (.spaceMismatch space home)
  | scalar _ => .ok ()

/-- The value at an index of a shape to which the leaf stretches. -/
def valueAt (target : Shape n) (i : Index n) : ValueLeaf n t → Option t.Elem
  | array _ (some v) => v.value (v.shape.narrow target i).toList
  | array _ none => none
  | scalar v => some v

end ValueLeaf

namespace Term

variable {L : DType → Type}

/-- The shape to which the leaves broadcast, from their shapes. -/
def shapeOf (shape : {t : DType} → L t → Except Error (Shape n)) {t : DType} :
    Term L t → Except Error (Shape n)
  | leaf a => shape a
  | binary _ l r => do
    let s ← l.shapeOf shape
    let u ← r.shapeOf shape
    s.broadcast u
  | unary _ e => e.shapeOf shape
  | cast _ e => e.shapeOf shape

/-- The value of a term; it is unspecified if that of a leaf is. -/
def eval? [Numerics] (value : {t : DType} → L t → Option t.Elem) :
    {t : DType} → Term L t → Option t.Elem
  | _, leaf a => value a
  | _, binary op l r => do return op.apply (← l.eval? value) (← r.eval? value)
  | _, unary op e => (e.eval? value).map op.apply
  | _, @cast _ s t e => (e.eval? value).map (castElem s t)

end Term

def Content.ofExpr [Numerics] (target : Shape n) (space : Space) (e : ValueExpr n t) :
    Except Error (Content t n) := do
  let s ← e.shapeOf ValueLeaf.shape
  e.leaves.forM fun ⟨_, a⟩ => a.checkSpace space
  s.broadcastsTo target
  return .ofFn target fun i => e.eval? (ValueLeaf.valueAt target i)

/-- A tensor as a plain value. One without content was moved from. -/
structure ValueTensor (t : DType) (n : Nat) where
  space : Space
  content : Option (Content t n)

namespace ValueTensor

def view (x : ValueTensor t n) : Except Error (Content t n) :=
  match x.content with
  | some c => .ok c
  | none => .error (.movedFrom .tensor)

/-- The content that a copy gets; that of a moved-from tensor has all extents 0. -/
def copied (x : ValueTensor t n) : Content t n :=
  x.content.getD (.unspecified .zeros)

def shape (x : ValueTensor t n) : Shape n :=
  x.copied.shape

def withContent (x : ValueTensor t n) (c : Content t n) : ValueTensor t n :=
  { x with content := some c }

def movedFrom (x : ValueTensor t n) : ValueTensor t n :=
  { x with content := none }

/-- A tensor all of whose extents are 0 takes the shape of the expression. -/
def assign [Numerics] (x : ValueTensor t n) (e : ValueExpr n t) :
    Except Error (ValueTensor t n) := do
  let s ← e.shapeOf ValueLeaf.shape
  x.withContent <$> Content.ofExpr (if x.shape = .zeros then s else x.shape) x.space e

def update [Numerics] (op : BinaryOp) (x : ValueTensor t n) (e : ValueExpr n t) :
    Except Error (ValueTensor t n) := do
  let c ← x.view
  x.withContent <$>
    Content.ofExpr c.shape x.space (.binary op (.leaf (.array x.space (some c.window))) e)

def fill (x : ValueTensor t n) (v : t.Elem) : Except Error (ValueTensor t n) := do
  let c ← x.view
  return x.withContent (.repeated c.shape (some v))

def set (x : ValueTensor t n) (i : Index n) (v : t.Elem) :
    Except OutOfBounds (ValueTensor t n) :=
  if x.shape.Contains i then .ok (x.withContent (x.copied.set i v))
  else .error ⟨i.toList, x.shape.toList⟩

end ValueTensor

structure AnyValueTensor where
  {dtype : DType}
  {rank : Nat}
  tensor : ValueTensor dtype rank

def ValueStore := String → Option AnyValueTensor

namespace ValueStore

def empty : ValueStore :=
  fun _ => none

def put (s : ValueStore) (name : String) (x : ValueTensor t n) : ValueStore :=
  fun k => if k = name then some ⟨x⟩ else s k

def find (s : ValueStore) (name : String) : Except Failure AnyValueTensor :=
  match s name with
  | some x => .ok x
  | none => .error (.unknownName name)

def tensor (s : ValueStore) (t : DType) (n : Nat) (name : String) :
    Except Failure (ValueTensor t n) := do
  let x ← s.find name
  if h : x.dtype = t ∧ x.rank = n then return h.1 ▸ h.2 ▸ x.tensor else throw (.otherType name)

def window (s : ValueStore) (t : DType) (name : String) (slices : List SliceStep) :
    Except Failure (Space × AnyValueWindow t) := do
  let x ← s.find name
  if h : x.dtype = t then
    (do
      let v ← AnyValueWindow.sliceAll ⟨h ▸ (← x.tensor.view).window⟩ slices
      return (x.tensor.space, v) : Except Error _).mapError .error
  else throw (.otherType name)

def view (s : ValueStore) (t : DType) (n : Nat) (name : String) (slices : List SliceStep) :
    Except Failure (Space × ValueWindow t n) := do
  let (space, v) ← s.window t name slices
  if h : v.rank = n then return (space, h ▸ v.window) else throw (.otherType name)

def resolve (s : ValueStore) {t : DType} : Reference n t → Except Failure (ValueLeaf n t)
  | .scalar v => return .scalar v
  | .tensor name => do
    let x ← s.tensor t n name
    return .array x.space (x.content.map Content.window)
  | .view name slices | .copied name slices => do
    let (space, v) ← s.view t n name slices
    return .array space (some v)

def expr (s : ValueStore) (e : Term (Reference n) t) : Except Failure (ValueExpr n t) :=
  e.traverse (M := ValueLeaf n) s.resolve

end ValueStore

/-- The operations of a program on tensors of rank 1 and more. -/
inductive Operation where
  | create (name : String) (space : Space) {t : DType} {n : Nat} (contents : Contents (n + 1) t)
  | take (name source : String)
  | clone (name source : String)
  | cloneFrom (name source : String)
  | resize (name : String) {n : Nat} (s : Shape (n + 1))
  | resizeDiscard (name : String) {n : Nat} (s : Shape (n + 1))
  | assign (name : String) {t : DType} {n : Nat} (e : Term (Reference (n + 1)) t)
  | update (op : BinaryOp) (name : String) {t : DType} {n : Nat} (e : Term (Reference (n + 1)) t)
  | fill (name : String) {t : DType} (v : t.Elem)
  | set (name : String) {t : DType} {n : Nat} (i : Index (n + 1)) (v : t.Elem)

/-- The tensor whose elements a reference reads in place. -/
def Reference.borrowed? : Reference n t → Option String
  | scalar _ | copied _ _ => none
  | tensor name | view name _ => some name

namespace Operation

/-- An expression that is written to a tensor reads that tensor only through copies: the destination
is borrowed mutably, so that no other borrow of it is alive. -/
def Separate : Operation → Prop
  | assign name e | update _ name e => ∀ a ∈ e.leaves, a.2.borrowed? ≠ some name
  | _ => True

/-- The names whose tensors an operation may change. -/
def Changes : Operation → String → Prop
  | take name source => fun k => k = name ∨ k = source
  | create name .. | clone name _ | cloneFrom name _ | resize name _ | resizeDiscard name _ |
    assign name _ | update _ name _ | fill name _ | set name .. => fun k => k = name

def command : Operation → Command
  | create name space contents => .create name space contents
  | take name source => .derive name source .take
  | clone name source => .derive name source .clone
  | cloneFrom name source => .cloneFrom name source
  | resize name s => .resize name s
  | resizeDiscard name s => .resizeDiscard name s
  | assign name e => .assign ⟨name, none⟩ e
  | update op name e => .update op ⟨name, none⟩ e
  | fill name v => .fill ⟨name, none⟩ v
  | set name i v => .set ⟨name, none⟩ i v

end Operation

namespace ValueStore

variable [Numerics]

def contents (s : ValueStore) (space : Space) :
    Contents n t → Except Failure (ValueTensor t n)
  | .unshaped => .ok ⟨space, some (.unspecified .zeros)⟩
  | .unspecified shape => .ok ⟨space, some (.unspecified shape)⟩
  | .repeated shape v => .ok ⟨space, some (.repeated shape (some v))⟩
  | .listed shape data => (listed shape data).mapError .error
  | .nested data => (do listed (← data.shape) (data.flatten n) : Except Error _).mapError .error
  | .value e => do
    let e ← s.expr e
    (ValueTensor.assign ⟨space, some (.unspecified .zeros)⟩ e).mapError .error
where
  listed (shape : Shape n) (data : List t.Elem) : Except Error (ValueTensor t n) :=
    if h : shape.size = data.length then .ok ⟨space, some (.listed shape data h)⟩
    else .error (.sizeMismatch shape.size data.length)

def apply (s : ValueStore) : Operation → Except Failure ValueStore
  | .create name space contents => s.put name <$> s.contents space contents
  | .take name source => do
    let x ← s.find source
    return (s.put source x.tensor.movedFrom).put name
      (x.tensor.withContent x.tensor.copied)
  | .clone name source => do
    let x ← s.find source
    return s.put name (x.tensor.withContent x.tensor.copied)
  | .cloneFrom name source => do
    let x ← s.find name
    let y ← s.tensor x.dtype x.rank source
    return s.put name (x.tensor.withContent y.copied)
  | @Operation.resize name n shape => do
    let x ← s.find name
    let x ← s.tensor x.dtype (n + 1) name
    return s.put name (x.withContent (x.copied.resize shape))
  | @Operation.resizeDiscard name n shape => do
    let x ← s.find name
    let x ← s.tensor x.dtype (n + 1) name
    return s.put name (x.withContent (.unspecified shape))
  | @Operation.assign name t n e => do
    let x ← s.tensor t (n + 1) name
    let e ← s.expr e
    s.put name <$> (x.assign e).mapError .error
  | @Operation.update op name t n e => do
    let x ← s.tensor t (n + 1) name
    let e ← s.expr e
    s.put name <$> (x.update op e).mapError .error
  | @Operation.fill name t v => do
    let x ← s.find name
    let x ← s.tensor t x.rank name
    s.put name <$> (x.fill v).mapError .error
  | @Operation.set name t n i v => do
    let x ← s.tensor t (n + 1) name
    s.put name <$> (x.set i v).mapError .outOfBounds

/-- A step that fails leaves everything as it was. -/
def settle (s : ValueStore) : Except Failure ValueStore → Except Failure Unit × ValueStore
  | .ok s' => (.ok (), s')
  | .error fault => (.error fault, s)

def step (s : ValueStore) (o : Operation) : Except Failure Unit × ValueStore :=
  s.settle (s.apply o)

def after (s : ValueStore) (operations : List Operation) : ValueStore :=
  operations.foldl (fun s o => (s.step o).2) s

end ValueStore

end Strided
