import Mathlib.Tactic.IntervalCases
import Strided.Numerics.Standard
import Strided.Proofs.Fitting
import Strided.Proofs.Tracking
import Strided.Proofs.Transferring

/-! The elements of an array as a list, and a list as a tensor.

A dense window is listed as one run of cells, any other one through a dense copy. Both ways the
`k`-th entry of the list is the element at the `k`-th index in column-major order. A tensor that is
made of a list has its entries in that same order, so that a list is that of the tensor made of it,
and a tensor made of the list of an array has the elements of the array.
-/

set_option autoImplicit false

namespace Strided

variable {t : DType} {n : Nat}

theorem Memory.getElem?_readRun {m : Memory} {a : Address} {count k : Nat} {v : t.Elem}
    (below : k < count) (found : m.read? t (a.shift k) = some v) :
    (m.readRun t a count)[k]? = some v := by
  have bound : k < (m.readRun t a count).length := by rwa [length_readRun]
  rw [List.getElem?_eq_getElem bound, getElem_readRun, read, found, Option.getD_some]

namespace Span

variable {c : ExecConfig} {s : Span t n} {m : Memory}

theorem length_toList [Numerics] (c : ExecConfig) (s : Span t n) (m : Memory) :
    (s.toList c m).length = s.size := by
  unfold toList
  split
  · rename_i empty
    exact empty.symm
  · split <;> exact Memory.length_readRun _ _ _

-- A window that is not dense is listed from its dense copy, which has the same shape.
theorem getElem?_toList [Numerics] (valid : c.Valid) (backed : s.Backed m) {k : Nat}
    (below : k < s.size) :
    (s.toList c m)[k]? = m.read? t (s.cell (s.shape.unravel k)) := by
  have inside : s.shape.Contains (s.shape.unravel k) := Shape.contains_unravel below
  have position : s.shape.position (s.shape.unravel k) = k := Shape.position_unravel below
  have found := backed.read?_cell inside
  rw [toList, if_neg (Nat.ne_zero_of_lt below), found]
  split
  · rename_i dense
    rw [cell_of_isContiguous dense inside, position] at found
    exact Memory.getElem?_readRun below found
  · have dense := (Tensor.renewed_ofSpan c s m).made.kept.dense
    have copied := (Tensor.read?_ofSpan valid backed inside).trans found
    rw [Tensor.cell_of_dense dense, Tensor.shape_ofSpan, position] at copied
    exact Memory.getElem?_readRun below copied

theorem getElem?_toList_position [Numerics] (valid : c.Valid) (backed : s.Backed m) {i : Index n}
    (inside : s.shape.Contains i) :
    (s.toList c m)[s.shape.position i]? = m.read? t (s.cell i) := by
  have below : s.shape.position i < s.size := Shape.position_lt_size inside
  have same : s.shape.unravel (s.shape.position i) = i := Shape.unravel_position inside
  rw [getElem?_toList valid backed below, same]

theorem getElem_toList [Numerics] (valid : c.Valid) (backed : s.Backed m) {k : Nat}
    (bound : k < (s.toList c m).length) : (s.toList c m)[k] = s.read m (s.shape.unravel k) := by
  have below : k < s.size := length_toList c s m ▸ bound
  have found := getElem?_toList valid backed below
  rw [backed.read?_cell (Shape.contains_unravel below)] at found
  exact (List.getElem_eq_iff bound).2 found

theorem Backed.broadcastTo (backed : s.Backed m) {target : Shape n}
    (stretches : s.shape.Stretches target) : (s.broadcastTo target).Backed m := by
  intro i inside
  rw [cell_broadcastTo]
  exact backed _ (Shape.contains_narrow stretches inside)

end Span

namespace Tensor

theorem holds_ofSpan [Numerics] (c : ExecConfig) (s : Span t n) (m : Memory) :
    (ofSpan c s m).1.Holds (ofSpan c s m).2 := by
  have holds := holds_empty (t := t) s.space s.shape m
  unfold ofSpan
  dsimp only
  split
  · exact holds
  · split
    · exact holds.mono (Memory.grows_copy _ t _ _ _)
    · exact holds.mono (Memory.grows_launch _ c _ _)

variable {s : Shape n} {data : List t.Elem} {m : Memory}

-- What a tensor that is made of a list has at an index is the entry at its position.
theorem exists_ofList (space : Space) (length : data.length = s.size) (m : Memory) :
    ∃ x m', ofList space s data m = .ok (x, m') ∧ Renewed .null m (x, m') ∧ x.Holds m' ∧
      x.space = space ∧ x.shape = s ∧
      ∀ i, s.Contains i → m'.read? t (x.span.cell i) = data[s.position i]? := by
  have renewed := renewed_empty (t := t) space s m
  have holds := holds_empty (t := t) space s m
  refine ⟨_, _, ofList_of_length space m length.symm,
    renewed.then (Memory.grows_writeRun _ _ data)
      (Memory.extendsOff_writeRun _ (empty (t := t) space s m).1.storage.start data),
    holds.mono (Memory.grows_writeRun _ _ data), space_empty space s m, rfl, ?_⟩
  intro i inside
  have below : s.position i < data.length := length.symm ▸ Shape.position_lt_size inside
  have room := holds.backed i inside
  rw [cell_of_dense holds.dense] at room ⊢
  rw [List.getElem?_eq_getElem below]
  exact Memory.read?_writeRun_shift below room

end Tensor

namespace Operand

theorem toList_of_live [Numerics] {c : ExecConfig} {a : Operand t n} {m : Memory} (live : a.Live) :
    a.toList c m = .ok (a.span.toList c m) := by
  cases a with
  | window s => rfl
  | tensor x =>
    have viewed : x.view = .ok x.span := view_of_live live
    rw [toList, Tensor.toList, viewed]
    rfl

theorem settles_toListSteps [Numerics] {c : ExecConfig} {a : Operand t n} {m : Memory}
    (live : a.Live) (addressable : a.span.shape.Addressable) :
    (a.toListSteps c m).run.Settles (.ok (a.span.toList c m)) := by
  have viewed : a.view = .ok a.span := view_of_live live
  rw [toListSteps, viewed]
  exact (Span.settles_toListSteps addressable).run_lift

end Operand

-- The entry at a position comes back from the index at that position.
theorem Tensor.toList_of_entries [Numerics] {c : ExecConfig} (valid : c.Valid) {x : Tensor t n}
    {m : Memory} (holds : x.Holds m) {data : List t.Elem} (length : data.length = x.size)
    (entries : ∀ i, x.shape.Contains i → m.read? t (x.span.cell i) = data[x.shape.position i]?) :
    x.toList c m = .ok data := by
  have live : (Operand.tensor x).Live := holds.live
  refine (Operand.toList_of_live live).trans (congrArg Except.ok (List.ext_getElem? fun k => ?_))
  have same : (x.span.toList c m).length = x.size := Span.length_toList c x.span m
  by_cases below : k < x.size
  · have inside : x.shape.Contains (x.shape.unravel k) := Shape.contains_unravel below
    have position : x.shape.position (x.shape.unravel k) = k := Shape.position_unravel below
    calc
      (x.span.toList c m)[k]? = m.read? t (x.span.cell (x.shape.unravel k)) :=
        Span.getElem?_toList valid holds.backed below
      _ = data[x.shape.position (x.shape.unravel k)]? := entries _ inside
      _ = data[k]? := by rw [position]
  · have beyond := Nat.le_of_not_lt below
    exact (List.getElem?_eq_none (same ▸ beyond)).trans
      (List.getElem?_eq_none (length ▸ beyond)).symm

/-- An array is listed in column-major order, whatever its layout is. A dense copy of it and a
tensor made of its list have its elements, in cells that were not there before. A list is that of
the tensor made of it, and no tensor is made of one whose length differs from the size. -/
theorem Operand.toList_exact [Numerics] {c : ExecConfig} (valid : c.validate = .ok ())
    (m : Memory) :
    (∀ n (a : Operand t n), a.Live → a.span.Backed m → a.span.shape.Addressable →
      ∃ data, (a.toListSteps c m).run.Settles (.ok data) ∧ data.length = a.span.size ∧
        (∀ k < a.span.size, ∃ v, data[k]? = some v ∧
          m.read? t (a.span.cell (a.span.shape.unravel k)) = some v) ∧
        (∃ x m', (Tensor.ofSpanSteps c a.span m).Settles (x, m') ∧ x.space = a.span.space ∧
          x.Holds m' ∧ a.span.StandsIn x.span m m') ∧
        ∀ space, ∃ x m', (Tensor.ofListSteps space a.span.shape data m).run.Settles (.ok (x, m')) ∧
          x.space = space ∧ x.Holds m' ∧ a.span.StandsIn x.span m m') ∧
      ∀ space n (s : Shape n) (data : List t.Elem), s.Addressable →
        (data.length = s.size →
          ∃ x m', (Tensor.ofListSteps space s data m).run.Settles (.ok (x, m')) ∧
            x.shape = s ∧ ((Operand.tensor x).toListSteps c m').run.Settles (.ok data)) ∧
        (data.length ≠ s.size → (Tensor.ofListSteps space s data m).run.Settles
          (.error (.sizeMismatch s.size data.length))) := by
  have valid := ExecConfig.validate_eq_ok_iff.1 valid
  refine ⟨fun n a live backed small => ?_,
    fun space n s data small => ⟨fun length => ?_, fun other => ?_⟩⟩
  · have length := Span.length_toList c a.span m
    refine ⟨_, settles_toListSteps live small, length, fun k below => ?_, ?_, fun space => ?_⟩
    · have found := backed.read?_cell (Shape.contains_unravel below)
      exact ⟨_, (Span.getElem?_toList valid backed below).trans found, found⟩
    · exact ⟨_, _, Tensor.settles_ofSpanSteps small, Tensor.space_ofSpan c a.span m,
        Tensor.holds_ofSpan c a.span m, Span.standsIn_ofSpan valid backed⟩
    · obtain ⟨x, m', made, renewed, holds, home, shape, entries⟩ :=
        Tensor.exists_ofList space length m
      have settles : (Tensor.ofListSteps space a.span.shape (a.span.toList c m) m).run.Settles _ :=
        Tensor.settles_ofListSteps small _
      refine ⟨x, m', made ▸ settles, home, holds, shape, holds.backed, fun i inside => ?_,
        fun _ _ => renewed.fresh _ rfl, renewed.all⟩
      exact (entries i inside).trans (Span.getElem?_toList_position valid backed inside)
  · obtain ⟨x, m', made, -, holds, -, rfl, entries⟩ := Tensor.exists_ofList space length m
    have settles : (Tensor.ofListSteps space x.shape data m).run.Settles _ :=
      Tensor.settles_ofListSteps small data
    have listed := Tensor.toList_of_entries valid holds length entries
    have live : (tensor x).Live := holds.live
    rw [show x.toList c m' = (tensor x).toList c m' from rfl, toList_of_live live] at listed
    exact ⟨x, m', made ▸ settles, rfl, listed ▸ settles_toListSteps live small⟩
  · have refused : Tensor.ofList space s data m = .error (.sizeMismatch s.size data.length) :=
      if_neg fun same => other same.symm
    exact refused ▸ Tensor.settles_ofListSteps small data

/-- The column from below, next to itself: neither dense nor without a stride of 0. -/
theorem toList_exact_columnTwice :
    oneThread.validate = .ok () ∧
      (reversedColumn.broadcastTo ⟨#v[3, 2]⟩).Backed threeNumbers ∧
      (⟨#v[3, 2]⟩ : Shape 2).Addressable ∧
      ((Operand.window (reversedColumn.broadcastTo ⟨#v[3, 2]⟩)).toListSteps oneThread
        threeNumbers).run.Settles (.ok [30, 20, 10, 30, 20, 10]) ∧
      ∃ x m', (Tensor.ofListSteps (t := .i32) .threads ⟨#v[3, 2]⟩ [30, 20, 10, 30, 20, 10]
          threeNumbers).run.Settles (.ok (x, m')) ∧
        m'.read? .i32 (x.span.cell #v[2, 1]) = some (10 : Int32) := by
  have valid : oneThread.validate = .ok () := rfl
  have stretches : reversedColumn.shape.Stretches ⟨#v[3, 2]⟩ := by decide
  have backed := backed_reversedColumn.broadcastTo stretches
  have small : (⟨#v[3, 2]⟩ : Shape 2).Addressable :=
    Shape.addressable_of_filled (by decide) (by decide)
  obtain ⟨each, -⟩ := Operand.toList_exact valid threeNumbers
  obtain ⟨data, listed, length, entries, -, made⟩ :=
    each 2 (.window (reversedColumn.broadcastTo ⟨#v[3, 2]⟩)) trivial backed small
  obtain rfl : data = [30, 20, 10, 30, 20, 10] := by
    refine List.ext_getElem length fun k below _ => ?_
    have bound : k < 6 := Nat.lt_of_lt_of_eq below length
    obtain ⟨v, entry, found⟩ := entries k bound
    rw [List.getElem?_eq_getElem below] at entry
    refine Option.some.inj (entry.trans (found.symm.trans ?_))
    interval_cases k <;> rfl
  obtain ⟨x, m', ok, -, -, standsIn⟩ := made .threads
  exact ⟨valid, backed, small, listed, x, m', ok,
    (standsIn.value #v[2, 1] (by decide)).trans rfl⟩

/-- No element for 2 ^ 64 places: one build does not get to the end, and in the other the length is
the size. -/
theorem Tensor.ofListSteps_of_nothing :
    ([] : List DType.u8.Elem).length ≠ (⟨#v[4294967296, 4294967296]⟩ : Shape 2).size ∧
      (ofListSteps (t := .u8) .host ⟨#v[4294967296, 4294967296]⟩ [] .empty).run.checked = none ∧
      (ofListSteps (t := .u8) .host ⟨#v[4294967296, 4294967296]⟩ [] .empty).run.wrapping.map
        Except.isOk = some true :=
  ⟨by decide, Option.isNone_iff_eq_none.1 (by decide +kernel), by decide +kernel⟩

end Strided
