import Strided.Proofs.Coverage
import Strided.Proofs.Overflow
import Strided.Proofs.Rendering
import Strided.Proofs.Rereading

/-! What the text of a subscript stands for.

The offset of a device access is written as a sum of index variables times strides. Its text is
read as that sum again, except that the stride of a reversed dimension is read as the negation of a
number. A dimension with stride 0 is not written at all, and the others keep their numbers.
-/

set_option autoImplicit false

namespace Strided

variable {t : DType} {n : Nat}

theorem CExpr.readable_sum {es : List CExpr} (terms : ∀ e ∈ es, e.Readable) :
    (sum es).Readable := by
  cases es with
  | nil => exact .literal 0 .plain
  | cons e es =>
    obtain ⟨first, others⟩ := List.forall_mem_cons.1 terms
    rw [sum]
    clear terms
    induction es generalizing e with
    | nil => exact first
    | cons e' es ih =>
      obtain ⟨second, others⟩ := List.forall_mem_cons.1 others
      exact ih (binary .add e e') (.binary (by decide) first second) others

theorem KernelSource.readable_offset (strides : List Int) : (offset strides).Readable :=
  CExpr.readable_sum <| List.forall_mem_map.2 fun p _ =>
    .binary nofun (.toLong (.name (.index p.2))) (.literal p.1 .longLong)

theorem CExpr.eval_read {env : CEnvironment} {i : Index n} (named : env.Names i)
    (strides : Strides n) :
    ∃ read c, read? (KernelSource.offset strides.toList).text = some read ∧
      read.eval env =
        some ⟨c, some (CInteger.longLong.wrap (Layout.travel i.toList strides.toList))⟩ := by
  obtain ⟨c, value⟩ := eval_offset named strides
  have reads := (KernelSource.readable_offset strides.toList).read?_text
    (KernelSource.grouped_offset strides.toList)
  exact ⟨_, c, reads, (eval_spelled env _).trans value⟩

-- The second dimension is not written, and the third keeps its number.
example : (KernelSource.offset [-1, 0, 3]).text =
    "(long long)i0 * -1LL + (long long)i2 * 3LL" := by decide

theorem CInteger.wrap_of_isWord {v : Int} (word : IsWord v) : longLong.wrap v = v := by
  obtain ⟨low, high⟩ := word
  apply Int.bmod_eq_of_le
  · change -(18446744073709551616 / 2 : Int) ≤ v
    omega
  · change v < (18446744073709551616 + 1 : Int) / 2
    omega

/-- The text between the brackets is read as a number, and it is the distance from the first cell to
the one that the host reads. -/
theorem Leaf.subscript_exact [Numerics] (a : Operand t n) {target : Shape n} {i : Index n}
    (stretches : a.span.shape.Stretches target) (inside : target.Contains i) (src : KernelSource)
    {env : CEnvironment} (named : env.Names i) :
    ∃ text read c v,
      (((Leaf.array a).lower target).emit src).1.text =
        (CName.pointer src.pointerCount).text ++ "[" ++ text ++ "]" ∧
      (((Leaf.array a).lower target).emit src).2.parameters =
        src.parameters ++ [.pointer t (.pointer src.pointerCount)] ∧
      (((Leaf.array a).lower target).emit src).2.arguments =
        src.arguments ++ [.address t a.span.start] ∧
      CExpr.read? text = some read ∧ read.eval env = some ⟨c, some v⟩ ∧
      v = CInteger.longLong.wrap ((a.span.broadcastTo target).layout.offset i) ∧
      (a.span.broadcastTo target).layout.offset i =
        a.span.layout.offset (a.span.shape.narrow target i) ∧
      a.span.shape.Contains (a.span.shape.narrow target i) ∧
      (∀ m, ((Leaf.array a).lower target).valueAt m i =
        a.span.read m (a.span.shape.narrow target i)) ∧
      (IsWord ((a.span.broadcastTo target).layout.offset i) →
        v = (a.span.broadcastTo target).layout.offset i ∧
        ∀ m, ((Leaf.array a).lower target).valueAt m i = m.read t (a.span.start.shift v)) := by
  obtain ⟨read, c, reads, value⟩ := CExpr.eval_read named (a.span.broadcastTo target).strides
  have moved : (a.span.broadcastTo target).layout.offset i =
      a.span.layout.offset (a.span.shape.narrow target i) :=
    a.span.layout.offset_broadcastTo target i
  refine ⟨_, read, c, _, rfl, ?_, ?_, reads, value, rfl, moved,
    Shape.contains_narrow stretches inside, ?_, ?_⟩
  · exact KernelSource.parameters_require t _
  · exact KernelSource.arguments_require t _
  · intro m
    exact congrArg (m.read t) (a.span.cell_broadcastTo target i)
  · intro word
    have kept := CInteger.wrap_of_isWord word
    exact ⟨kept, fun m => congrArg (fun v => m.read t (a.span.start.shift v)) kept.symm⟩

/-- The column is reversed and has the stride 5 along the second dimension, which is stretched. -/
theorem Leaf.subscript_exact_reversedColumn :
    reversedColumn.shape.Stretches ⟨#v[3, 2]⟩ ∧
      Shape.Contains ⟨#v[3, 2]⟩ #v[2, 1] ∧
      (CEnvironment.ofParameters [] [] threeNumbers #v[2, 1]).Names #v[2, 1] ∧
      IsWord ((reversedColumn.broadcastTo ⟨#v[3, 2]⟩).layout.offset #v[2, 1]) ∧
      ∃ text read c,
        (((Leaf.array (.window reversedColumn)).lower ⟨#v[3, 2]⟩).emit .empty).1.text =
          "p0[" ++ text ++ "]" ∧
        CExpr.read? text = some read ∧
        read.eval (.ofParameters [] [] threeNumbers #v[2, 1]) = some ⟨c, some (-2)⟩ := by
  have stretches : reversedColumn.shape.Stretches ⟨#v[3, 2]⟩ := by decide
  have inside : Shape.Contains ⟨#v[3, 2]⟩ #v[2, 1] := by decide
  have named := CEnvironment.names_ofParameters [] [] threeNumbers #v[2, 1]
  have word : IsWord ((reversedColumn.broadcastTo ⟨#v[3, 2]⟩).layout.offset #v[2, 1]) := by decide
  obtain ⟨text, read, c, v, written, -, -, reads, value, -, -, -, -, offset⟩ :=
    Leaf.subscript_exact (.window reversedColumn) stretches inside .empty named
  obtain rfl : v = -2 := (offset word).1
  exact ⟨stretches, inside, named, word, text, read, c, written, reads, value⟩

end Strided
