import Strided.DType

/-! Memory: buffers of elements, and addresses into them.

Buffers of each element type are numbered in the order of their allocation. A number is never
given out twice, so two buffers are the same exactly when their numbers are. Reading outside a
buffer finds nothing, and writing there changes nothing.

`read?` is how a memory is observed: after each operation a lemma says what it finds at every
address.
-/

set_option autoImplicit false

namespace Strided

inductive Base where
  | null
  | buffer (number : Nat)
  /-- Memory that was not allocated here, at an address in bytes. -/
  | foreign (address : UInt64)
  deriving DecidableEq, Repr, Inhabited

/-- A cell, counted in elements from the beginning of a buffer. -/
structure Address where
  base : Base
  cell : Int
  deriving DecidableEq, Repr, Inhabited

namespace Address

def start (base : Base) : Address :=
  ⟨base, 0⟩

def shift (a : Address) (distance : Int) : Address :=
  ⟨a.base, a.cell + distance⟩

@[simp] theorem base_shift (a : Address) (distance : Int) : (a.shift distance).base = a.base := rfl

@[simp] theorem cell_shift (a : Address) (distance : Int) :
    (a.shift distance).cell = a.cell + distance := rfl

theorem shift_shift (a : Address) (d e : Int) : (a.shift d).shift e = a.shift (d + e) := by
  simp [shift, Int.add_assoc]

/-- The address is one of `count` consecutive cells from `first` on. -/
def InRun (first : Address) (count : Nat) (a : Address) : Prop :=
  a.base = first.base ∧ first.cell ≤ a.cell ∧ a.cell < first.cell + count

instance (first : Address) (count : Nat) (a : Address) : Decidable (InRun first count a) :=
  inferInstanceAs (Decidable (_ ∧ _ ∧ _))

theorem not_inRun_zero (first a : Address) : ¬ InRun first 0 a := by
  unfold InRun; omega

theorem inRun_succ_iff (first a : Address) (count : Nat) :
    InRun first (count + 1) a ↔ a = first ∨ InRun (first.shift 1) count a := by
  cases a; cases first
  simp only [InRun, mk.injEq, shift]
  constructor
  · rintro ⟨hb, h⟩; simp only [hb, true_and]; omega
  · rintro (⟨hb, h⟩ | ⟨hb, h⟩) <;> simp only [hb, true_and] <;> omega

/-- The address as a machine word, given the words at which allocated buffers begin. -/
def word (home : Nat → UInt64) (t : DType) (a : Address) : UInt64 :=
  let origin := match a.base with
    | .null => 0
    | .buffer number => home number
    | .foreign address => address
  origin + .ofInt (a.cell * t.bytes)

end Address

/-- The buffers of every element type. -/
structure Memory where
  buffers : DType.Family fun t => Array (Array t.Elem)

namespace Memory

variable {t : DType}

def empty : Memory :=
  ⟨.const fun _ => #[]⟩

/-- The elements of a buffer; foreign memory and the null buffer hold none that are known here. -/
def cells (m : Memory) (t : DType) : Base → Array t.Elem
  | .buffer number => ((m.buffers.get t)[number]?).getD #[]
  | _ => #[]

/-- The element at an address, if a buffer has that cell. -/
def read? (m : Memory) (t : DType) (a : Address) : Option t.Elem :=
  if a.cell < 0 then none else (m.cells t a.base)[a.cell.toNat]?

def read (m : Memory) (t : DType) (a : Address) : t.Elem :=
  (m.read? t a).getD t.zero

/-- A new buffer of zeros. No cells need no buffer. -/
def allocate (m : Memory) (t : DType) (count : Nat) : Base × Memory :=
  if count = 0 then (.null, m)
  else
    (.buffer (m.buffers.get t).size, ⟨m.buffers.modify t (·.push (.replicate count t.zero))⟩)

/-- Allocation leaves what was there. -/
theorem read?_allocate (m : Memory) (count : Nat) (u : DType) (a : Address)
    (h : a.base ≠ (m.allocate t count).1) : (m.allocate t count).2.read? u a = m.read? u a := by
  unfold allocate at h ⊢
  split
  · rfl
  · rename_i hc
    simp only [hc, ↓reduceIte] at h
    unfold read? cells
    cases hb : a.base with
    | null => rfl
    | foreign => rfl
    | buffer k =>
      by_cases hu : u = t
      · subst hu
        have hk : k ≠ (m.buffers.get u).size := fun e => h (by rw [hb, e])
        simp [Array.getElem?_push, hk]
      · simp [DType.Family.get_modify_of_ne _ hu]

/-- A new buffer holds zeros and nothing else. -/
theorem read?_allocate_self (m : Memory) (count : Nat) (i : Int) :
    (m.allocate t count).2.read? t ⟨(m.allocate t count).1, i⟩ =
      if 0 ≤ i ∧ i < count then some t.zero else none := by
  unfold allocate
  split
  · rename_i hc
    subst hc
    have h : ¬ (0 ≤ i ∧ i < ((0 : Nat) : Int)) := by omega
    rw [if_neg h]
    simp [read?, cells]
  · unfold read? cells
    by_cases hi : i < 0
    · have h : ¬ (0 ≤ i ∧ i < count) := by omega
      simp [hi, h]
    · by_cases hc : i < count
      · have h : 0 ≤ i ∧ i < count := ⟨by omega, hc⟩
        have h' : i.toNat < count := by omega
        simp [hi, h, h']
      · have h : ¬ (0 ≤ i ∧ i < count) := by omega
        have h' : count ≤ i.toNat := by omega
        simp [hi, h, h']

def write (m : Memory) (t : DType) (a : Address) (v : t.Elem) : Memory :=
  match a.base with
  | .buffer number =>
    if a.cell < 0 then m
    else ⟨m.buffers.modify t (·.modify number (·.setIfInBounds a.cell.toNat v))⟩
  | _ => m

theorem cells_write_self (m : Memory) (a : Address) (v : t.Elem) :
    (m.write t a v).cells t a.base =
      if a.cell < 0 then m.cells t a.base
      else (m.cells t a.base).setIfInBounds a.cell.toNat v := by
  unfold write cells
  cases a.base with
  | buffer number =>
    by_cases h : a.cell < 0
    · simp [h]
    · simp only [h, ↓reduceIte, DType.Family.get_modify_self, Array.getElem?_modify]
      cases (m.buffers.get t)[number]? <;> simp
  | null => simp
  | foreign => simp

theorem cells_write_of_ne (m : Memory) (a : Address) (v : t.Elem) {base : Base}
    (h : base ≠ a.base) : (m.write t a v).cells t base = m.cells t base := by
  unfold write cells
  cases ha : a.base with
  | buffer number =>
    by_cases hc : a.cell < 0
    · simp [hc]
    · cases base with
      | buffer k =>
        have hk : number ≠ k := fun e => h (by rw [ha, e])
        simp [hc, Array.getElem?_modify, hk]
      | null => rfl
      | foreign => rfl
  | null => rfl
  | foreign => rfl

theorem cells_write_of_dtype_ne (m : Memory) (a : Address) (v : t.Elem) {u : DType} (h : u ≠ t)
    (base : Base) : (m.write t a v).cells u base = m.cells u base := by
  unfold write cells
  cases a.base with
  | buffer number =>
    by_cases hc : a.cell < 0
    · simp [hc]
    · cases base <;> simp [hc, DType.Family.get_modify_of_ne _ h]
  | null => rfl
  | foreign => rfl

theorem read?_write (m : Memory) (a b : Address) (v : t.Elem) :
    (m.write t a v).read? t b = if b = a then (m.read? t b).map fun _ => v else m.read? t b := by
  by_cases hb : b.base = a.base
  · unfold read?
    rw [hb, cells_write_self]
    by_cases hn : b.cell < 0
    · simp [hn]
    · by_cases hc : b.cell = a.cell
      · have : b = a := by cases a; cases b; simp_all
        subst this
        simp only [hn, ↓reduceIte, Array.getElem?_setIfInBounds_self]
        split <;> simp_all
      · have hne : b ≠ a := fun e => hc (congrArg Address.cell e)
        simp only [hn, hne, ↓reduceIte]
        by_cases ha : a.cell < 0
        · simp [ha]
        · have : a.cell.toNat ≠ b.cell.toNat := by omega
          simp [ha, Array.getElem?_setIfInBounds_ne this]
  · have hne : b ≠ a := fun e => hb (congrArg Address.base e)
    simp [read?, cells_write_of_ne m a v hb, hne]

theorem read?_write_of_dtype_ne (m : Memory) (a b : Address) (v : t.Elem) {u : DType} (h : u ≠ t) :
    (m.write t a v).read? u b = m.read? u b := by
  simp [read?, cells_write_of_dtype_ne m a v h]

def readRun (m : Memory) (t : DType) (a : Address) (count : Nat) : List t.Elem :=
  (List.range count).map fun (k : Nat) => m.read t (a.shift k)

@[simp] theorem length_readRun (m : Memory) (a : Address) (count : Nat) :
    (m.readRun t a count).length = count := by
  simp [readRun]

@[simp] theorem getElem_readRun (m : Memory) (a : Address) (count k : Nat)
    (h : k < (m.readRun t a count).length) :
    (m.readRun t a count)[k] = m.read t (a.shift k) := by
  simp [readRun]

def writeRun (m : Memory) (t : DType) : Address → List t.Elem → Memory
  | _, [] => m
  | a, v :: vs => (m.write t a v).writeRun t (a.shift 1) vs

/-- A run of writes reaches as many cells as there are values. -/
theorem read?_writeRun (m : Memory) (a b : Address) (vs : List t.Elem) :
    (m.writeRun t a vs).read? t b =
      if Address.InRun a vs.length b then
        (m.read? t b).map fun _ => vs.getD (b.cell - a.cell).toNat t.zero
      else m.read? t b := by
  induction vs generalizing m a with
  | nil => simp [writeRun, Address.not_inRun_zero]
  | cons v vs ih =>
    rw [writeRun, ih, read?_write]
    simp only [List.length_cons, Address.inRun_succ_iff]
    by_cases hab : b = a
    · subst hab
      have h : ¬ Address.InRun (b.shift 1) vs.length b := by
        simp only [Address.InRun, Address.cell_shift]; omega
      simp [h]
    · by_cases h : Address.InRun (a.shift 1) vs.length b
      · have hk : (b.cell - a.cell).toNat = (b.cell - (a.shift 1).cell).toNat + 1 := by
          simp only [Address.InRun, Address.cell_shift] at h ⊢; omega
        simp [hab, h, hk]
      · simp [hab, h]

/-- Copy consecutive elements. All are read before the first is written, so the two runs may
overlap. -/
def copy (m : Memory) (t : DType) (source target : Address) (count : Nat) : Memory :=
  m.writeRun t target (m.readRun t source count)

end Memory

end Strided
