import Strided.Elem.Arithmetic
import Strided.Elem.Conversion

/-! Elementwise terms over leaves of any kind.

A term is typed by the element type of its value. `eval` gives its value from the values of its
leaves. Every other pass over terms is a `map` or a `traverse` of the leaves, or goes through
their list.
-/

set_option autoImplicit false

namespace Strided

inductive Term (Leaf : DType → Type) : DType → Type where
  | leaf {t : DType} (a : Leaf t) : Term Leaf t
  | binary {t : DType} (op : BinaryOp) (l r : Term Leaf t) : Term Leaf t
  | unary {t : DType} (op : UnaryOp) (e : Term Leaf t) : Term Leaf t
  | cast {s : DType} (t : DType) (e : Term Leaf s) : Term Leaf t

namespace Term

variable {L M : DType → Type}

def eval [Numerics] (value : {t : DType} → L t → t.Elem) : {t : DType} → Term L t → t.Elem
  | _, leaf a => value a
  | _, binary op l r => op.apply (l.eval value) (r.eval value)
  | _, unary op e => op.apply (e.eval value)
  | _, @cast _ s t e => castElem s t (e.eval value)

def map (f : {t : DType} → L t → M t) : {t : DType} → Term L t → Term M t
  | _, leaf a => leaf (f a)
  | _, binary op l r => binary op (l.map f) (r.map f)
  | _, unary op e => unary op (e.map f)
  | _, cast t e => cast t (e.map f)

/-- Replace every leaf, from left to right, by the outcome of an action. -/
def traverse {m : Type → Type} [Monad m] (f : {t : DType} → L t → m (M t)) :
    {t : DType} → Term L t → m (Term M t)
  | _, leaf a => leaf <$> f a
  | _, binary op l r => do
    let l ← l.traverse f
    let r ← r.traverse f
    return binary op l r
  | _, unary op e => unary op <$> e.traverse f
  | _, cast t e => cast t <$> e.traverse f

/-- The leaves from left to right, each with its element type. -/
def leaves : {t : DType} → Term L t → List ((t : DType) × L t)
  | t, leaf a => [⟨t, a⟩]
  | _, binary _ l r => l.leaves ++ r.leaves
  | _, unary _ e => e.leaves
  | _, cast _ e => e.leaves

theorem eval_map [Numerics] (f : {t : DType} → L t → M t) (value : {t : DType} → M t → t.Elem)
    {t : DType} (e : Term L t) : (e.map f).eval value = e.eval fun a => value (f a) := by
  induction e with
  | leaf => rfl
  | binary _ _ _ ihl ihr => simp only [map, eval, ihl, ihr]
  | unary _ _ ih => simp only [map, eval, ih]
  | cast _ _ ih => simp only [map, eval, ih]

theorem leaves_map (f : {t : DType} → L t → M t) {t : DType} (e : Term L t) :
    (e.map f).leaves = e.leaves.map fun ⟨t, a⟩ => ⟨t, f a⟩ := by
  induction e with
  | leaf => rfl
  | binary _ _ _ ihl ihr => simp only [map, leaves, ihl, ihr, List.map_append]
  | unary _ _ ih => simp only [map, leaves, ih]
  | cast _ _ ih => simp only [map, leaves, ih]

end Term

end Strided
