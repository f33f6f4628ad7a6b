import Strided.Proofs.Addressing

/-! The odometer that counts through the indices of a shape.

One index is kept, and advanced in place: `Carry` is the walk over its dimensions that counts it one
up, `Counts` the loop that visits it and counts until the last dimension wraps. Both end, and the
loop visits `Shape.indices`, which are the numbers below the size written in mixed radix. The offset
in a dense array reads such a number back.
-/

set_option autoImplicit false

namespace Strided

namespace Radix

-- What is lost beyond the last digit is a multiple of the size.
theorem digits_mod_size (es : List Nat) (k : Nat) : digits es (k % size es) = digits es k := by
  induction es generalizing k with
  | nil => rfl
  | cons e es ih =>
    rw [digits, digits, size, Nat.mod_mul_right_mod, Nat.mod_mul_right_div_self, ih]

theorem size_take_succ {es : List Nat} {d : Nat} (h : d < es.length) :
    size (es.take (d + 1)) = size (es.take d) * es[d] := by
  rw [List.take_add_one, List.getElem?_eq_getElem h, size_append]
  simp [size]

end Radix

namespace Shape

variable {n : Nat} {s : Shape n}

/-- Counting an index one up from dimension `d` on, one dimension after the other: a dimension that
has reached its extent goes back to 0 and carries into the next. There is no index left to visit
after the last dimension has carried. -/
inductive Carry (s : Shape n) : Nat → Index n → Option (Index n) → Prop
  | past {i : Index n} : Carry s n i none
  | stop {d : Nat} {i : Index n} (h : d < n) (below : i[d] + 1 < s.dims[d]) :
    Carry s d i (some (i.set d (i[d] + 1)))
  | wrap {d : Nat} {i : Index n} {next : Option (Index n)} (h : d < n)
    (full : s.dims[d] ≤ i[d] + 1) (rest : Carry s (d + 1) (i.set d 0) next) : Carry s d i next

/-- The loop that starts at an index ends, and these are the indices it visits. -/
inductive Counts (s : Shape n) : Index n → List (Index n) → Prop
  | last {i : Index n} (carry : s.Carry 0 i none) : Counts s i [i]
  | next {i j : Index n} {visited : List (Index n)} (carry : s.Carry 0 i (some j))
    (rest : Counts s j visited) : Counts s i (i :: visited)

/-- Visiting every index of a shape ends, and these are the indices visited. -/
inductive Visits (s : Shape n) : List (Index n) → Prop
  | nothing (empty : s.size = 0) : Visits s []
  | all {visited : List (Index n)} (filled : s.size ≠ 0)
    (counts : s.Counts (Vector.replicate n 0) visited) : Visits s visited

theorem Carry.exists {d : Nat} (ranked : d ≤ n) (i : Index n) : ∃ next, s.Carry d i next := by
  induction ranked using Nat.decreasingInduction generalizing i with
  | self => exact ⟨none, .past⟩
  | of_succ d h ih =>
    by_cases below : i[d] + 1 < s.dims[d]
    · exact ⟨_, .stop h below⟩
    · obtain ⟨next, rest⟩ := ih (i.set d 0)
      exact ⟨next, .wrap h (Nat.not_lt.1 below) rest⟩

theorem drop_toList {α : Type} (v : Vector α n) {d : Nat} (h : d < n) :
    v.toList.drop d = v[d] :: v.toList.drop (d + 1) := by
  rw [List.drop_eq_getElem_cons (by simpa using h), Vector.getElem_toList]

theorem toList_set (i : Index n) {d : Nat} (h : d < n) (k : Nat) :
    (i.set d k).toList = i.toList.take d ++ k :: i.toList.drop (d + 1) := by
  rw [Vector.toList_set, List.set_eq_take_append_cons_drop, if_pos (by simpa using h)]

-- The dimensions before `d` are left alone, and those from `d` on count as digits do.
theorem Carry.map_toList {d : Nat} {i : Index n} {next : Option (Index n)}
    (carry : s.Carry d i next) :
    next.map Vector.toList =
      (Radix.next? (s.toList.drop d) (i.toList.drop d)).map (i.toList.take d ++ ·) := by
  induction carry with
  | past => simp [List.drop_eq_nil_of_le, Radix.next?]
  | @stop d i h below =>
    rw [toList, drop_toList s.dims h, drop_toList i h, Radix.next?, if_pos below, Option.map_some,
      Option.map_some, toList_set i h]
  | @wrap d i next h full rest ih =>
    have before : (i.toList.take d).length = d := by simp; omega
    have kept : (i.set d 0).toList.drop (d + 1) = i.toList.drop (d + 1) := by
      simp [Vector.toList_set, List.drop_set_of_lt]
    have wrapped : (i.set d 0).toList.take (d + 1) = i.toList.take d ++ [0] := by
      rw [toList_set i h, List.take_append, before]
      simp
    rw [ih, kept, wrapped, toList, drop_toList s.dims h, drop_toList i h, Radix.next?,
      if_neg (Nat.not_lt.2 full), Option.map_map]
    simp [Function.comp_def]

theorem map_toList_next? (s : Shape n) (i : Index n) :
    (s.next? i).map Vector.toList = Radix.next? s.toList i.toList := by
  unfold next?
  split
  · rename_i digits found
    exact found.symm
  · rename_i none
    exact none.symm

theorem Carry.eq_next? {i : Index n} {next : Option (Index n)} (carry : s.Carry 0 i next) :
    next = s.next? i := by
  apply Option.map_injective (fun _ _ => Vector.toList_inj.1)
  rw [map_toList_next?, carry.map_toList]
  simp

theorem carry_next? (s : Shape n) (i : Index n) : s.Carry 0 i (s.next? i) := by
  obtain ⟨next, carry⟩ := Carry.exists (s := s) (Nat.zero_le n) i
  rwa [← carry.eq_next?]

theorem indicesFrom_eq (s : Shape n) (i : Index n) :
    s.indicesFrom i = i :: ((s.next? i).map s.indicesFrom).getD [] := by
  rw [indicesFrom]
  split <;> simp [*]

theorem counts_indicesFrom (s : Shape n) (i : Index n) : s.Counts i (s.indicesFrom i) := by
  fun_induction indicesFrom s i with
  | case1 i ih =>
    have carry := s.carry_next? i
    split
    · rename_i j found
      exact .next (found ▸ carry) (ih j found)
    · rename_i none
      exact .last (none ▸ carry)

theorem Counts.eq_indicesFrom {i : Index n} {visited : List (Index n)}
    (counts : s.Counts i visited) : visited = s.indicesFrom i := by
  induction counts with
  | last carry => rw [indicesFrom_eq, ← carry.eq_next?, Option.map_none, Option.getD_none]
  | next carry _ ih => rw [indicesFrom_eq, ← carry.eq_next?, Option.map_some, Option.getD_some, ih]

theorem visits_iff {visited : List (Index n)} : s.Visits visited ↔ visited = s.indices := by
  unfold indices
  constructor
  · rintro (empty | ⟨filled, counts⟩)
    · rw [if_pos empty]
    · rw [if_neg filled, counts.eq_indicesFrom]
  · rintro rfl
    split
    · exact .nothing ‹_›
    · exact .all ‹_› (s.counts_indicesFrom _)

theorem indices_eq_nil {d : Fin n} (empty : s.extent d = 0) : s.indices = [] := by
  refine List.eq_nil_iff_forall_not_mem.2 fun i member => ?_
  have below := mem_indices.1 member d
  omega

theorem indices_of_rank_zero (s : Shape 0) : s.indices = [Vector.replicate 0 0] := by
  have one : s.size = 1 := by
    rw [size, List.length_eq_zero_iff.1 s.length_toList, Radix.size]
  rw [indices_eq_map_unravel, one, ← unravel_zero]
  rfl

theorem unravel_mod_size (s : Shape n) (k : Nat) : s.unravel (k % s.size) = s.unravel k :=
  Vector.toList_inj.1 (Radix.digits_mod_size s.toList k)

theorem stride_defaultStrides (s : Shape n) (d : Fin n) :
    s.defaultStrides.stride d = Radix.size (s.toList.take d) := by
  simp only [defaultStrides, Strides.stride, Vector.get, List.getElem_toArray, List.getElem_map,
    Radix.getElem_weights]
  rfl

-- A running product: each stride is the one before times the extent there.
theorem stride_succ (s : Shape n) (d : Nat) (h : d + 1 < n) :
    s.defaultStrides.stride ⟨d + 1, h⟩ =
      s.defaultStrides.stride ⟨d, Nat.lt_of_succ_lt h⟩ * s.extent ⟨d, Nat.lt_of_succ_lt h⟩ := by
  have ranked : d < s.toList.length := by simpa using Nat.lt_of_succ_lt h
  rw [stride_defaultStrides, stride_defaultStrides, Radix.size_take_succ ranked, Int.natCast_mul]
  simp [toList, extent]

/-- Counting, unravelling and the offset in a dense array are the same order of the same indices. -/
theorem traversal_bijective (s : Shape n) :
    (∀ visited, s.Visits visited ↔ visited = s.indices) ∧
      s.indices.length = s.size ∧ s.indices.Nodup ∧ (∀ i, i ∈ s.indices ↔ s.Contains i) ∧
      ((∃ d, s.extent d = 0) → s.indices = []) ∧
      (n = 0 → s.indices.map Vector.toList = [[]]) ∧
      (∀ k < s.size, s.indices[k]? = some (s.unravel k) ∧ s.Contains (s.unravel k) ∧
        (Layout.contiguous s).offset (s.unravel k) = k) ∧
      (∀ i, s.Contains i →
        ∃ k < s.size, (Layout.contiguous s).offset i = k ∧ s.unravel k = i) ∧
      (s.size ≠ 0 → ∀ k, s.unravel? k = some (s.unravel (k % s.size))) ∧
      (∀ h : 0 < n, s.defaultStrides.stride ⟨0, h⟩ = 1) ∧
      ∀ (d : Nat) (h : d + 1 < n), s.defaultStrides.stride ⟨d + 1, h⟩ =
        s.defaultStrides.stride ⟨d, Nat.lt_of_succ_lt h⟩ *
          s.extent ⟨d, Nat.lt_of_succ_lt h⟩ := by
  refine ⟨fun _ => visits_iff, ?_, s.nodup_indices, fun _ => mem_indices,
    fun ⟨_, empty⟩ => indices_eq_nil empty, ?_, fun k below => ⟨?_, contains_unravel below, ?_⟩,
    fun i inside => ⟨s.position i, position_lt_size inside, Layout.offset_contiguous s i,
      unravel_position inside⟩, fun filled k => ?_,
    fun h => s.stride_defaultStrides ⟨0, h⟩, s.stride_succ⟩
  · rw [indices_eq_map_unravel, List.length_map, List.length_range]
  · rintro rfl
    rw [indices_of_rank_zero]
    rfl
  · simp [indices_eq_map_unravel, below]
  · rw [Layout.offset_contiguous, position_unravel below]
  · rw [unravel?, if_neg filled, unravel_mod_size]

end Shape

end Strided
