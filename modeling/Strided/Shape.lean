import Strided.Error
import Strided.Radix

/-! Shapes: the extents of an array, one per dimension.

An index is inside a shape when each component is below its extent. Two shapes broadcast when
in every dimension the extents agree or one of them is 1; the join of the shapes then takes the
other extent. Sizes have no bound here: `Layout.Calculation` has them on words, with what becomes of
one that is too large.
-/

set_option autoImplicit false

namespace Strided

variable {n : Nat}

/-- The extents of a rank-`n` array. -/
structure Shape (n : Nat) where
  dims : Vector Nat n
  deriving DecidableEq

/-- A position in a rank-`n` array, one component per dimension. -/
abbrev Index (n : Nat) := Vector Nat n

namespace Shape

def extent (s : Shape n) (d : Fin n) : Nat :=
  s.dims[d]

def ofFn (extent : Fin n → Nat) : Shape n :=
  ⟨Vector.ofFn extent⟩

@[simp] theorem extent_ofFn (f : Fin n → Nat) (d : Fin n) : (ofFn f).extent d = f d := by
  simp [extent, ofFn]

@[ext] theorem ext {s t : Shape n} (h : ∀ d, s.extent d = t.extent d) : s = t := by
  cases s; cases t
  congr
  exact Vector.ext fun d hd => h ⟨d, hd⟩

def toList (s : Shape n) : List Nat :=
  s.dims.toList

@[simp] theorem length_toList (s : Shape n) : s.toList.length = n := by
  simp [toList]

def zeros : Shape n :=
  ofFn fun _ => 0

/-- The shape with every extent 1, that of a scalar. -/
def ones : Shape n :=
  ofFn fun _ => 1

/-- The number of elements; 1 for rank 0. -/
def size (s : Shape n) : Nat :=
  Radix.size s.toList

def ofInts (n : Nat) (extents : List Int) : Except Error (Shape n) :=
  if h : extents.length = n then
    match extents.zipIdx.find? (·.1 < 0) with
    | some (extent, dim) => .error (.refused (.negativeExtent extent dim))
    | none => .ok ⟨⟨(extents.map Int.toNat).toArray, by simp [h]⟩⟩
  else
    .error (.rankMismatch n extents.length)

def Contains (s : Shape n) (i : Index n) : Prop :=
  ∀ d : Fin n, i[d] < s.extent d

instance (s : Shape n) (i : Index n) : Decidable (s.Contains i) :=
  inferInstanceAs (Decidable (∀ d : Fin n, i[d] < s.extent d))

/-- Extents that can meet in one dimension: equal, or one of them stretches. -/
def Agree (a b : Nat) : Prop :=
  a = b ∨ a = 1 ∨ b = 1

instance (a b : Nat) : Decidable (Agree a b) :=
  inferInstanceAs (Decidable (_ ∨ _))

def meet (a b : Nat) : Nat :=
  if b = 1 then a else b

/-- The shape to which both shapes stretch. -/
def broadcast (s t : Shape n) : Except Error (Shape n) :=
  if ∀ d, Agree (s.extent d) (t.extent d) then
    .ok (ofFn fun d => meet (s.extent d) (t.extent d))
  else
    .error (.shapeMismatch s.toList t.toList)

/-- Each extent of `s` is that of the target or stretches to it. -/
def Stretches (s target : Shape n) : Prop :=
  ∀ d : Fin n, s.extent d = target.extent d ∨ s.extent d = 1

instance (s target : Shape n) : Decidable (s.Stretches target) :=
  inferInstanceAs (Decidable (∀ d : Fin n, s.extent d = target.extent d ∨ s.extent d = 1))

def broadcastsTo (s target : Shape n) : Except Error Unit :=
  if s.Stretches target then .ok () else .error (.shapeMismatch target.toList s.toList)

def set (s : Shape n) (d : Fin n) (extent : Nat) : Shape n :=
  ⟨s.dims.set d extent⟩

def text (s : Shape n) : String :=
  Text.parenthesised (s.toList.map toString)

def debug (s : Shape n) : String :=
  "Shape" ++ s.text

theorem broadcast_eq_ok_iff {s t u : Shape n} :
    s.broadcast t = .ok u ↔
      (∀ d, Agree (s.extent d) (t.extent d)) ∧
        u = ofFn fun d => meet (s.extent d) (t.extent d) := by
  by_cases h : ∀ d, Agree (s.extent d) (t.extent d)
  · simp [broadcast, h, eq_comm (a := u)]
  · simp [broadcast, h]

theorem broadcastsTo_eq_ok_iff {s target : Shape n} :
    s.broadcastsTo target = .ok () ↔ s.Stretches target := by
  by_cases h : s.Stretches target <;> simp [broadcastsTo, h]

end Shape

end Strided
