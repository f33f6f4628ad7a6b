import Strided.Elem.Arithmetic
import Strided.Memory
import Strided.Space
import Strided.Text.Listing
import Strided.Text.Quoted

/-! Storages: resizable buffers that one owner holds.

Length and capacity are kept apart: a storage that shrinks keeps its buffer, and the elements
beyond its length reappear when it grows again within its capacity.
-/

set_option autoImplicit false

namespace Strided

structure Storage (t : DType) where
  space : Space
  base : Base
  len : Nat
  capacity : Nat
  /-- The buffer was taken away, and the storage has not been resized since. -/
  released : Bool
  deriving DecidableEq, Repr

namespace Storage

variable {t : DType}

def empty (space : Space) : Storage t :=
  ⟨space, .null, 0, 0, false⟩

def start (s : Storage t) : Address :=
  .start s.base

def isEmpty (s : Storage t) : Bool :=
  s.len = 0

def isNull (s : Storage t) : Bool :=
  s.base = .null

/-- Change the length, moving to a larger buffer when there is no room. The first `kept` elements
move along; the others are then unspecified. -/
def resizeKeeping (kept count : Nat) (s : Storage t) (m : Memory) : Storage t × Memory :=
  if count ≤ s.capacity then ({ s with len := count, released := false }, m)
  else
    let (base, m') := m.allocate t count
    ({ s with base := base, len := count, capacity := count, released := false },
      m'.copy t s.start (.start base) kept)

section
variable (s : Storage t) (kept count : Nat) (m : Memory)

@[simp] theorem len_resizeKeeping : (s.resizeKeeping kept count m).1.len = count := by
  unfold resizeKeeping; split <;> rfl

@[simp] theorem capacity_resizeKeeping :
    (s.resizeKeeping kept count m).1.capacity = max s.capacity count := by
  unfold resizeKeeping
  split
  · exact (Nat.max_eq_left ‹_›).symm
  · exact (Nat.max_eq_right (Nat.le_of_not_le ‹_›)).symm

@[simp] theorem released_resizeKeeping : (s.resizeKeeping kept count m).1.released = false := by
  unfold resizeKeeping; split <;> rfl

@[simp] theorem space_resizeKeeping : (s.resizeKeeping kept count m).1.space = s.space := by
  unfold resizeKeeping; split <;> rfl

/-- Within the capacity nothing moves. -/
theorem resizeKeeping_of_le (h : count ≤ s.capacity) :
    s.resizeKeeping kept count m = (⟨s.space, s.base, count, s.capacity, false⟩, m) := by
  simp [resizeKeeping, h]

end

/-- Change the length, keeping the elements that both lengths have room for. -/
def resize (count : Nat) (s : Storage t) (m : Memory) : Storage t × Memory :=
  s.resizeKeeping (min s.len count) count m

/-- Change the length; a larger buffer starts afresh. -/
def resizeDiscard (count : Nat) (s : Storage t) (m : Memory) : Storage t × Memory :=
  s.resizeKeeping 0 count m

def new (space : Space) (count : Nat) (m : Memory) : Storage t × Memory :=
  (empty space).resizeDiscard count m

def ofList (space : Space) (data : List t.Elem) (m : Memory) : Storage t × Memory :=
  let (s, m) := Storage.new space data.length m
  (s, m.writeRun t s.start data)

def toList (s : Storage t) (m : Memory) : List t.Elem :=
  m.readRun t s.start s.len

/-- Hand the buffer over: the storage that now owns it, and the one that is left without. -/
def take (s : Storage t) : Storage t × Storage t :=
  ({ s with released := false }, ⟨s.space, .null, 0, 0, true⟩)

/-- Become a copy of the source, in the buffer at hand if it is large enough. -/
def cloneFrom (s source : Storage t) (m : Memory) : Storage t × Memory :=
  let (s, m) := s.resizeDiscard source.len m
  (s, m.copy t source.start s.start source.len)

def clone (source : Storage t) (m : Memory) : Storage t × Memory :=
  (empty source.space).cloneFrom source m

/-- The same elements in the same number, wherever they are. -/
def equal [Numerics] (a b : Storage t) (m : Memory) : Bool :=
  a.len = b.len && a.toList m == b.toList m

def debug (s : Storage t) : String :=
  Text.record "Storage" [("space", s.space.label), ("dtype", Text.quoted t.name),
    ("len", toString s.len), ("capacity", toString s.capacity)]

end Storage

end Strided
