import Strided.Calculation
import Strided.Layout

/-! Sizes, strides and offsets, one operation on words at a time.

Extents are words without a sign and strides are words with one. A size is a product of extents; in
strides and offsets an extent or a component of an index is cast first.
-/

set_option autoImplicit false

namespace Strided

open Calculation (cast compute computeUnsigned)

variable {n : Nat}

namespace Shape

def productSteps (product : Int) : List Nat → Calculation Int
  | [] => return product
  | e :: es => do productSteps (← computeUnsigned (product * e)) es

def sizeSteps (s : Shape n) : Calculation Nat := do
  return (← productSteps 1 s.toList).toNat

/-- The strides of dense dimensions, where those before them span `weight` elements. The product
with the last extent is calculated, too. -/
def weightsSteps (weight : Int) :
    (es : List Nat) → Calculation {rs : List Int // rs.length = es.length}
  | [] => return ⟨[], rfl⟩
  | e :: es => do
    let rest ← weightsSteps (← compute (weight * (← cast e))) es
    return ⟨weight :: rest, congrArg Nat.succ rest.2⟩

def defaultStridesSteps (s : Shape n) : Calculation (Strides n) := do
  let rs ← weightsSteps 1 s.toList
  return ⟨⟨rs.1.toArray, by simp [rs.2]⟩⟩

end Shape

namespace Layout

def contiguousSteps (s : Shape n) : Calculation (Layout n) := do
  return ⟨s, ← s.defaultStridesSteps⟩

def travelSteps (distance : Int) : List Nat → List Int → Calculation Int
  | k :: ks, r :: rs => do
    let further ← compute ((← cast k) * r)
    travelSteps (← compute (distance + further)) ks rs
  | _, _ => return distance

def offsetSteps (l : Layout n) (i : Index n) : Calculation Int :=
  travelSteps 0 i.toList l.strides.toList

/-- The first stride that is not the expected one decides. -/
def denseSteps (expected : Int) : List Nat → List Int → Calculation Bool
  | e :: es, r :: rs =>
    if e ≠ 1 ∧ r ≠ expected then return false
    else do denseSteps (← compute (expected * (← cast e))) es rs
  | _, _ => return true

def isContiguousSteps (l : Layout n) : Calculation Bool :=
  denseSteps 1 l.shape.toList l.strides.toList

end Layout

end Strided
