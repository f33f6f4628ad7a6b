import Strided.Tensor

/-! Nested literals.

The innermost list runs along dimension 0 and the outermost along the last one, so the elements
in the order in which they are written are those of the array in column-major order.
-/

set_option autoImplicit false

namespace Strided

def Nested (α : Type) : Nat → Type
  | 0 => α
  | depth + 1 => List (Nested α depth)

namespace Nested

variable {α : Type}

def flatten : (depth : Nat) → Nested α depth → List α
  | 0, x => [x]
  | depth + 1, xs => List.flatMap (flatten depth) xs

/-- The lengths of the list and of the first lists in it, from the outside in. Where there is no
first list the length is 0. -/
def lengths : (depth : Nat) → Nested α depth → List Nat
  | 0, _ => []
  | depth + 1, xs =>
    List.length xs :: match (show List (Nested α depth) from xs) with
      | [] => List.replicate depth 0
      | x :: _ => lengths depth x

/-- Every list at every depth has the length that is expected there. The first list at fault, in
the order in which they are written, is reported with its depth. -/
def checkLengths (level : Nat) : (depth : Nat) → List Nat → Nested α depth → Except Error Unit
  | 0, _, _ => .ok ()
  | depth + 1, expected, xs => do
    let length := expected.headD 0
    if List.length xs = length then
      List.forM (show List (Nested α depth) from xs) (checkLengths (level + 1) depth expected.tail)
    else throw (.refused (.raggedLiteral level length (List.length xs)))

theorem length_lengths (depth : Nat) (x : Nested α depth) : (lengths depth x).length = depth := by
  induction depth with
  | zero => rfl
  | succ depth ih =>
    match x with
    | [] => simp [lengths]
    | y :: ys => simp [lengths, ih]

/-- The shape of a literal in which all lists at the same depth are equally long. -/
def shape (rank : Nat) (x : Nested α rank) : Except Error (Shape rank) := do
  checkLengths 0 rank (lengths rank x) x
  return ⟨⟨(lengths rank x).reverse.toArray, by simp [length_lengths]⟩⟩

end Nested

/-- Nested sequences of fixed lengths, from the outside in. -/
def Grid (α : Type) : List Nat → Type
  | [] => α
  | e :: es => Vector (Grid α es) e

namespace Grid

variable {α : Type}

def flatten : (es : List Nat) → Grid α es → List α
  | [], x => [x]
  | _ :: es, xs => (Vector.toList xs).flatMap (flatten es)

/-- Fill a grid from a list, in the order in which its elements are written. -/
def ofList : (es : List Nat) → List α → Option (Grid α es)
  | [], [x] => some x
  | [], _ => none
  | e :: es, xs => do
    let parts ← (List.range e).mapM fun k =>
      ofList es ((xs.drop (k * Radix.size es)).take (Radix.size es))
    if h : parts.length = e then
      return (⟨parts.toArray, by simpa using h⟩ : Vector (Grid α es) e)
    else none

/-- The innermost length is the first extent. -/
def shape (es : List Nat) : Shape es.length :=
  ⟨⟨es.reverse.toArray, by simp⟩⟩

end Grid

namespace Tensor

variable {t : DType} {n : Nat}

def ofNested (space : Space) (x : Nested t.Elem n) (m : Memory) :
    Except Error (Tensor t n × Memory) := do
  let s ← x.shape
  ofList space s (x.flatten n) m

def ofGrid (space : Space) (es : List Nat) (x : Grid t.Elem es) (m : Memory) :
    Except Error (Tensor t es.length × Memory) :=
  ofList space (Grid.shape es) (x.flatten es) m

end Tensor

end Strided
