import Strided.Shape

/-! Layouts: where each element of a strided array lies, relative to the first one.

Strides and offsets have no bound here. `Layout.Calculation` has them on words.
-/

set_option autoImplicit false

namespace Strided

variable {n : Nat}

/-- How far apart neighbours along each dimension lie, in elements. -/
structure Strides (n : Nat) where
  values : Vector Int n
  deriving DecidableEq

def Strides.stride (r : Strides n) (d : Fin n) : Int :=
  r.values.get d

def Strides.toList (r : Strides n) : List Int :=
  r.values.toList

def Strides.debug (r : Strides n) : String :=
  "Strides" ++ Text.parenthesised (r.toList.map toString)

/-- The strides of a dense array whose first dimension is contiguous. -/
def Shape.defaultStrides (s : Shape n) : Strides n :=
  ⟨⟨((Radix.weights s.toList).map Int.ofNat).toArray, by simp⟩⟩

structure Layout (n : Nat) where
  shape : Shape n
  strides : Strides n
  deriving DecidableEq

namespace Layout

def contiguous (s : Shape n) : Layout n :=
  ⟨s, s.defaultStrides⟩

/-- The layout of an array that has not been given a shape. -/
def unshaped : Layout n :=
  contiguous .zeros

def size (l : Layout n) : Nat :=
  l.shape.size

/-- The distance that steps along each dimension add up to. -/
def travel : List Nat → List Int → Int
  | k :: ks, r :: rs => k * r + travel ks rs
  | _, _ => 0

/-- The distance of an element from the first one, in elements. -/
def offset (l : Layout n) (i : Index n) : Int :=
  travel i.toList l.strides.toList

/-- The strides are those of a dense array, except where an extent of 1 leaves them unused.
`weight` is the number of elements that the dimensions before span. -/
def denseFrom (weight : Int) : List Nat → List Int → Bool
  | e :: es, r :: rs => (e = 1 || r = weight) && denseFrom (weight * e) es rs
  | _, _ => true

/-- The elements lie densely in column-major order. -/
def isContiguous (l : Layout n) : Bool :=
  denseFrom 1 l.shape.toList l.strides.toList

/-- The same elements read at a larger shape: a dimension that stretches has stride 0. -/
def broadcastTo (l : Layout n) (target : Shape n) : Layout n where
  shape := target
  strides := ⟨Vector.ofFn fun d =>
    if l.shape.extent d = target.extent d then l.strides.stride d else 0⟩

def debug (l : Layout n) : String :=
  Text.record "Layout" [("shape", l.shape.debug), ("strides", l.strides.debug)]

@[simp] theorem size_contiguous (s : Shape n) : (contiguous s).size = s.size := rfl

@[simp] theorem shape_broadcastTo (l : Layout n) (target : Shape n) :
    (l.broadcastTo target).shape = target := rfl

end Layout

end Strided
