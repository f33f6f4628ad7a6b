import Strided.Shape

/-! The column-major order of the indices of a shape.

`indices` counts through them with the first dimension fastest, as an odometer does. `unravel`
goes to the `k`-th one directly, and `position` goes back. Counting reaches every index of the
shape once, in the order of the positions.
-/

set_option autoImplicit false

namespace Strided.Shape

variable {n : Nat}

theorem contains_iff_within {s : Shape n} {i : Index n} :
    s.Contains i ↔ Radix.Within s.toList i.toList := by
  rw [Radix.within_iff (by simp)]
  simp [Contains, extent, toList, Fin.forall_iff]

/-- The index of the `k`-th element in column-major order. -/
def unravel (s : Shape n) (k : Nat) : Index n :=
  ⟨(Radix.digits s.toList k).toArray, by simp⟩

@[simp] theorem toList_unravel (s : Shape n) (k : Nat) :
    (s.unravel k).toList = Radix.digits s.toList k := rfl

/-- The index of the `k`-th element; there is none to count to in a shape without elements. -/
def unravel? (s : Shape n) (k : Nat) : Option (Index n) :=
  if s.size = 0 then none else some (s.unravel k)

def position (s : Shape n) (i : Index n) : Nat :=
  Radix.value s.toList i.toList

theorem contains_unravel {s : Shape n} {k : Nat} (h : k < s.size) : s.Contains (s.unravel k) :=
  contains_iff_within.2 (Radix.within_digits h)

theorem position_lt_size {s : Shape n} {i : Index n} (h : s.Contains i) : s.position i < s.size :=
  Radix.value_lt_size (contains_iff_within.1 h)

theorem position_unravel {s : Shape n} {k : Nat} (h : k < s.size) :
    s.position (s.unravel k) = k :=
  Radix.value_digits _ _ h

theorem unravel_position {s : Shape n} {i : Index n} (h : s.Contains i) :
    s.unravel (s.position i) = i :=
  Vector.toList_inj.1 (Radix.digits_value (contains_iff_within.1 h))

/-- The index after `i`, or `none` after the last one. -/
def next? (s : Shape n) (i : Index n) : Option (Index n) :=
  match h : Radix.next? s.toList i.toList with
  | some digits => some ⟨digits.toArray, by simpa using Radix.length_of_next? h⟩
  | none => none

theorem headroom_next? {s : Shape n} {i j : Index n} (h : s.next? i = some j) :
    Radix.headroom s.toList j.toList < Radix.headroom s.toList i.toList := by
  unfold next? at h
  split at h
  · rename_i digits hd
    cases h
    simpa using Radix.headroom_next? hd
  · cases h

/-- Counting goes to the next position, as long as there is one. -/
theorem next?_unravel {s : Shape n} {k : Nat} (h : k < s.size) :
    s.next? (s.unravel k) = if k + 1 < s.size then some (s.unravel (k + 1)) else none := by
  have hr := Radix.next?_eq (Radix.within_digits h)
  rw [Radix.value_digits _ _ h] at hr
  unfold next?
  split
  · rename_i digits hd
    rw [toList_unravel, hr] at hd
    split at hd
    · cases hd
      exact (if_pos ‹_›).symm
    · cases hd
  · rename_i hd
    rw [toList_unravel, hr] at hd
    split at hd
    · cases hd
    · exact (if_neg ‹_›).symm

def indicesFrom (s : Shape n) (i : Index n) : List (Index n) :=
  i :: match _ : s.next? i with
    | some j => s.indicesFrom j
    | none => []
termination_by Radix.headroom s.toList i.toList
decreasing_by exact headroom_next? ‹_›

theorem indicesFrom_unravel {s : Shape n} {k : Nat} (h : k < s.size) :
    s.indicesFrom (s.unravel k) = (List.range' k (s.size - k)).map s.unravel := by
  induction hr : s.size - k generalizing k with
  | zero => omega
  | succ rest ih =>
    rw [indicesFrom, List.range'_succ, List.map_cons]
    congr 1
    split
    · rename_i j hj
      rw [next?_unravel h] at hj
      split at hj
      · cases hj
        exact ih ‹_› (by omega)
      · cases hj
    · rename_i hj
      rw [next?_unravel h] at hj
      split at hj
      · cases hj
      · have : rest = 0 := by omega
        simp [this]

/-- Every index of the shape, the first dimension running fastest. -/
def indices (s : Shape n) : List (Index n) :=
  if s.size = 0 then [] else s.indicesFrom (Vector.replicate n 0)

theorem unravel_zero (s : Shape n) : s.unravel 0 = Vector.replicate n 0 := by
  apply Vector.toList_inj.1
  have h (es : List Nat) : Radix.digits es 0 = List.replicate es.length 0 := by
    induction es with
    | nil => rfl
    | cons e es ih => simp [Radix.digits, ih, List.replicate_succ]
  simp [h]

/-- Counting visits the positions in order. -/
theorem indices_eq_map_unravel (s : Shape n) : s.indices = (List.range s.size).map s.unravel := by
  unfold indices
  split
  · rename_i h
    simp [h]
  · rename_i h
    rw [← unravel_zero, indicesFrom_unravel (Nat.pos_of_ne_zero h), List.range_eq_range',
      Nat.sub_zero]

theorem mem_indices {s : Shape n} {i : Index n} : i ∈ s.indices ↔ s.Contains i := by
  rw [indices_eq_map_unravel]
  simp only [List.mem_map, List.mem_range]
  exact ⟨fun ⟨k, hk, hi⟩ => hi ▸ contains_unravel hk,
    fun h => ⟨s.position i, position_lt_size h, unravel_position h⟩⟩

theorem nodup_indices (s : Shape n) : s.indices.Nodup := by
  rw [indices_eq_map_unravel]
  refine List.pairwise_map.2 (List.Pairwise.imp_of_mem ?_ List.nodup_range)
  intro a b ha hb hne heq
  rw [List.mem_range] at ha hb
  exact hne (by rw [← position_unravel ha, ← position_unravel hb, heq])

end Strided.Shape
