import Mathlib.Algebra.BigOperators.Group.List.Basic
import Strided.Numerics.Standard
import Strided.Proofs.Collecting
import Strided.Proofs.DeviceArithmetic
import Strided.Proofs.Lowering

/-! What the device code of a kernel evaluates to.

Parameters are only ever added, so a name keeps its meaning while the rest of the code is emitted.
The code brings every result back to the type that it has on the host, except that of a negation:
a negated byte stays an `int`. Where no such number is divided, divides or is read in another type,
the device stores what the host computes.
-/

set_option autoImplicit false

namespace Strided

variable {t : DType} {n : Nat}

section
variable {parameters : List Parameter} {arguments : List Argument} {m : Memory} {i : Index n}

open CInteger (longLong)

-- A dimension with stride 0 can be left out of the sum.
theorem travel_eq_sum (position : Nat → Nat) (steps : List Nat) (strides : List Int) (dim : Nat)
    (same : steps.length = strides.length)
    (steps_eq : ∀ d (bound : d < steps.length), position (dim + d) = steps[d]) :
    Layout.travel steps strides =
      (((strides.zipIdx dim).filter (·.1 ≠ 0)).map fun p => (position p.2 : Int) * p.1).sum := by
  induction strides generalizing steps dim with
  | nil => cases steps <;> rfl
  | cons r rs ih =>
    cases steps with
    | nil => cases same
    | cons k ks =>
      have first : position dim = k := steps_eq 0 (by simp)
      have rest := ih ks (dim + 1) (Nat.succ.inj same) fun d bound => by
        rw [Nat.add_assoc, Nat.add_comm 1 d]
        exact steps_eq (d + 1) (Nat.succ_lt_succ bound)
      by_cases still : r = 0
      · simp only [Layout.travel, rest, List.zipIdx_cons]
        simp [still]
      · simp only [Layout.travel, rest, List.zipIdx_cons]
        simp [still, first]

/-- The index variables stand for an index. -/
def CEnvironment.Names (env : CEnvironment) (i : Index n) : Prop :=
  ∀ d : Fin n, env.number? (.index d) = some ⟨.sizeT, some (CInteger.sizeT.wrap (i.get d))⟩

variable (parameters arguments m i) in
theorem CEnvironment.names_ofParameters : (ofParameters parameters arguments m i).Names i := by
  intro d
  have found : i.toList[d.val]? = some (i.get d) := by
    simp
    rfl
  simp only [ofParameters, found, bind, Option.bind_some, pure, Option.map_some]

theorem eval_offsetTerm {env : CEnvironment} {dim k : Nat} (stride : Int)
    (named : env.number? (.index dim) = some ⟨.sizeT, some (CInteger.sizeT.wrap k)⟩) :
    (KernelSource.offsetTerm dim stride).eval env =
      some ⟨.longLong, some (longLong.wrap (k * stride))⟩ := by
  have same : longLong.wrap (longLong.wrap (CInteger.sizeT.wrap k)) *
      longLong.wrap (longLong.wrap stride) ≡ k * stride [ZMOD longLong.modulus] := by
    refine Int.ModEq.mul ?_ ?_
    · exact (longLong.wrap_modEq _).trans ((longLong.wrap_modEq _).trans
        (CInteger.sizeT.wrap_modEq _))
    · exact (longLong.wrap_modEq _).trans (longLong.wrap_modEq _)
  simp only [KernelSource.offsetTerm, CExpr.eval, named, CType.integer?, bind, Option.bind_some,
    pure]
  rw [← CInteger.wrap_eq_wrap same]
  rfl

theorem eval_sum {env : CEnvironment} {es : List CExpr} {ks : List Int}
    (terms : List.Forall₂ (fun e k => e.eval env = some ⟨.longLong, some (longLong.wrap k)⟩)
      es ks) :
    ∃ c, (CExpr.sum es).eval env = some ⟨c, some (longLong.wrap ks.sum)⟩ := by
  cases terms with
  | nil => exact ⟨.int, rfl⟩
  | @cons e k es ks first rest =>
    refine ⟨.longLong, ?_⟩
    rw [CExpr.sum, List.sum_cons]
    induction rest generalizing e k with
    | nil => rw [List.foldl_nil, first, List.sum_nil, Int.add_zero]
    | @cons e' k' es ks second rest ih =>
      rw [List.foldl_cons, List.sum_cons, ← Int.add_assoc]
      apply ih
      have same : longLong.wrap (longLong.wrap k) + longLong.wrap (longLong.wrap k') ≡ k + k'
          [ZMOD longLong.modulus] := by
        refine Int.ModEq.add ?_ ?_ <;>
          exact (longLong.wrap_modEq _).trans (longLong.wrap_modEq _)
      simp only [CExpr.eval, first, second, bind, Option.bind_some, pure]
      rw [← CInteger.wrap_eq_wrap same]
      rfl

theorem eval_offset {env : CEnvironment} (named : env.Names i) (strides : Strides n) :
    ∃ c, (KernelSource.offset strides.toList).eval env =
      some ⟨c, some (longLong.wrap (Layout.travel i.toList strides.toList))⟩ := by
  have lengths : i.toList.length = strides.toList.length := by simp [Strides.toList]
  have steps (d : Nat) (bound : d < i.toList.length) : i.toList.getD (0 + d) 0 = i.toList[d] := by
    rw [Nat.zero_add, List.getD_eq_getElem?_getD, List.getElem?_eq_getElem bound, Option.getD_some]
  rw [travel_eq_sum (i.toList.getD · 0) i.toList strides.toList 0 lengths steps]
  apply eval_sum
  rw [List.forall₂_map_left_iff, List.forall₂_map_right_iff, List.forall₂_same]
  rintro ⟨stride, dim⟩ member
  have bound : dim < n := by
    have := List.snd_lt_of_mem_zipIdx (List.mem_of_mem_filter member)
    simpa [Strides.toList] using this
  have position : i.toList.getD dim 0 = i.get ⟨dim, bound⟩ := by
    simp [bound]
    rfl
  rw [eval_offsetTerm stride (named ⟨dim, bound⟩), position]

end

namespace Term

variable {L : DType → Type}

/-- Every element is a whole number, and negation is the only function. -/
def Whole : {t : DType} → Term L t → Prop
  | t, leaf _ => t.isIntegral
  | _, binary _ l r => l.Whole ∧ r.Whole
  | _, unary op e => op = .neg ∧ e.Whole
  | _, cast t e => t.isIntegral ∧ e.Whole

def isByteNegation : {t : DType} → Term L t → Bool
  | .u8, unary .neg _ => true
  | _, _ => false

/-- A negation of bytes is brought back to its type before it is divided, divides, or is read in
another type. -/
def NegationsNarrowed : {t : DType} → Term L t → Prop
  | _, leaf _ => True
  | _, binary op l r => l.NegationsNarrowed ∧ r.NegationsNarrowed ∧
      (op = .div → ¬ l.isByteNegation ∧ ¬ r.isByteNegation)
  | _, unary _ e => e.NegationsNarrowed
  | _, cast t e => e.NegationsNarrowed ∧ (e.isByteNegation → t = .u8)

theorem Whole.integral {t : DType} {k : Term L t} (whole : k.Whole) : t.isIntegral := by
  induction k with
  | leaf => exact whole
  | binary _ _ _ ihl _ => exact ihl whole.1
  | unary _ _ ih => exact ih whole.2
  | cast => exact whole.1

theorem eq_u8_of_isByteNegation {t : DType} {k : Term L t} (bytes : k.isByteNegation) :
    t = .u8 := by
  unfold isByteNegation at bytes
  split at bytes
  · rfl
  · cases bytes

theorem ne_u8_of_not_isByteNegation {t : DType} {e : Term L t}
    (other : ¬ (unary .neg e).isByteNegation) : t ≠ .u8 := by
  rintro rfl
  exact other rfl

end Term

/-- The distance of the element at an index fits 64 bits with a sign. -/
def Source.Reachable (i : Index n) : Source n t → Prop
  | window s => CInteger.longLong.wrap (s.layout.offset i) = s.layout.offset i
  | scalar _ => True

def KernelSource.environment (src : KernelSource) (m : Memory) (i : Index n) : CEnvironment :=
  .ofParameters src.parameters src.arguments m i

section
variable {src final : KernelSource} {m : Memory} {i : Index n} {c : CInteger}

namespace KernelSource

theorem Aligned.array?_environment (aligned : src.Aligned) (a : Address)
    (leads : Leads (src.pushPointer t a).2 final) :
    (final.environment m i).array? (.pointer src.pointerCount) = some (t, a) := by
  simp only [environment, CEnvironment.ofParameters, aligned.bound?_pushPointer a leads]

theorem Aligned.number?_environment (aligned : src.Aligned) (w : UInt64)
    (leads : Leads (src.pushWord w).2 final) :
    (final.environment m i).number? (.scalar src.scalarCount) =
      some ⟨.longLong, some (CInteger.longLong.wrap w.toNat)⟩ := by
  simp only [environment, CEnvironment.ofParameters, aligned.bound?_pushWord w leads]

end KernelSource

open KernelSource (Leads)

variable [Numerics]

theorem Source.eval_emit (counterpart : t.integer? = some c) (a : Source n t)
    (reachable : a.Reachable i) (aligned : src.Aligned) (leads : Leads (a.emit src).2 final) :
    (a.emit src).1.eval (final.environment m i) = some ⟨c, some (t.number (a.valueAt m i))⟩ := by
  cases a with
  | window s =>
    obtain ⟨d, offset⟩ := eval_offset
      (CEnvironment.names_ofParameters final.parameters final.arguments m i) s.strides
    have distance : CInteger.longLong.wrap (Layout.travel i.toList s.strides.toList) =
      s.layout.offset i := reachable
    rw [distance] at offset
    have array := aligned.array?_environment (m := m) (i := i) s.start leads
    have index : (KernelSource.offset s.strides.toList).eval (final.environment m i) = _ := offset
    simp only [emit, KernelSource.pushPointer, CExpr.eval, array, counterpart, index, bind,
      Option.bind_some, pure, Option.map_some]
    rfl
  | scalar v =>
    have real : t.isComplex = false := by
      cases t <;> first | rfl | cases counterpart
    have integral : t.isIntegral = true := by
      cases t <;> first | rfl | cases counterpart
    simp only [emit, KernelSource.pushScalar, real, integral, Bool.false_eq_true, ↓reduceIte]
      at leads ⊢
    have word := ((KernelSource.Call.require t src).aligned aligned).number?_environment (m := m)
      (i := i) _ leads
    have kept := wrap_kernelWords counterpart v
    simp only [KernelSource.pushWord, CExpr.eval, CType.integer?, counterpart, word, bind,
      Option.bind_some, pure, CNumber.convert, Option.map_some, kept]
    rfl

theorem render_binary (counterpart : t.integer? = some c) {env : CEnvironment} (op : BinaryOp)
    {l r : CExpr} {x y : CNumber} {a b : t.Elem} (left : l.eval env = some x)
    (right : r.eval env = some y) (first : x.Denotes c (t.number a))
    (second : y.Denotes c (t.number b))
    (exact : op = .div → x.value = some (t.number a) ∧ y.value = some (t.number b)) :
    ∃ d, d.promote = c.promote ∧
      (op.render t l r).eval env = some ⟨d, some (t.number (op.apply a b))⟩ := by
  have integral : t.isIntegral = true := by
    cases t <;> first | rfl | cases counterpart
  rw [number_apply counterpart]
  by_cases division : op = .div
  · obtain ⟨known, divisor⟩ := exact division
    have quotient := CNumber.select_division known divisor first.type second.type
      (wrap_number counterpart a) (wrap_number counterpart b)
    subst division
    refine ⟨c.promote, c.promote_promote, ?_⟩
    simp [BinaryOp.render, integral, CExpr.eval, CType.integer?, counterpart, left, right,
      CSuffix.integer, quotient, BinaryOp.exact]
  · have result := CNumber.convert_operator division first second
    refine ⟨c, rfl, ?_⟩
    cases op <;> simp_all [BinaryOp.render, CExpr.eval, CType.integer?]

/-- What the code of a kernel evaluates to where the kernel has a value. -/
def Term.Rendered (k : Kernel n t) (c : CInteger) (m : Memory) (i : Index n) (x : CNumber) :
    Prop :=
  x.Denotes c (t.number (k.valueAt m i)) ∧
    (¬ k.isByteNegation → x.value = some (t.number (k.valueAt m i)))

theorem Term.eval_emit (counterpart : t.integer? = some c) (k : Kernel n t) (whole : k.Whole)
    (narrowed : k.NegationsNarrowed) (reachable : ∀ a ∈ k.leaves, a.2.Reachable i)
    (aligned : src.Aligned) (leads : Leads (Term.emit k src).2 final) :
    ∃ x, (Term.emit k src).1.eval (final.environment m i) = some x ∧ k.Rendered c m i x := by
  induction k generalizing src c with
  | leaf a =>
    have value := Source.eval_emit (m := m) counterpart a (reachable _ List.mem_cons_self) aligned
      leads
    exact ⟨_, value, ⟨rfl, _, rfl, wrap_number counterpart _⟩, fun _ => rfl⟩
  | binary op l r ihl ihr =>
    obtain ⟨narrowLeft, narrowRight, apart⟩ := narrowed
    have leadsLeft : Leads (Term.emit l src).2 final := (Term.leads_emit r _).trans leads
    obtain ⟨x, left, first, exactLeft⟩ := ihl counterpart whole.1 narrowLeft
      (fun a member => reachable a (List.mem_append_left _ member)) aligned leadsLeft
    obtain ⟨y, right, second, exactRight⟩ := ihr counterpart whole.2 narrowRight
      (fun a member => reachable a (List.mem_append_right _ member))
      ((Term.leads_emit l src).aligned aligned) leads
    obtain ⟨d, same, value⟩ := render_binary counterpart op left right first second
      fun division => ⟨exactLeft (apart division).1, exactRight (apart division).2⟩
    exact ⟨_, value, ⟨same, _, rfl, wrap_number counterpart _⟩, fun _ => rfl⟩
  | unary op e ih =>
    obtain ⟨rfl, whole⟩ := whole
    obtain ⟨x, operand, denotes, -⟩ := ih counterpart whole narrowed reachable aligned leads
    have value := number_neg counterpart (e.valueAt m i)
    refine ⟨x.negate, ?_, ?_, fun notBytes => ?_⟩
    · change ((Term.emit e src).1.eval _).map CNumber.negate = _
      rw [operand, Option.map_some]
    · exact value ▸ denotes.negate
    · have wide : c ≠ .uint8 := by
        rintro rfl
        exact ne_u8_of_not_isByteNegation notBytes (eq_u8_of_integer? counterpart)
      exact value ▸ denotes.value_negate (CInteger.promote_of_ne wide)
  | @cast s t e ih =>
    obtain ⟨narrowed, kept⟩ := narrowed
    obtain ⟨cs, inner⟩ := s.exists_integer whole.2.integral
    obtain ⟨x, operand, ⟨-, a, found, denotes⟩, exact⟩ :=
      ih inner whole.2 narrowed reachable ((KernelSource.Call.require t src).aligned aligned) leads
    have value : c.wrap a = t.number (castElem s t (e.valueAt m i)) := by
      rw [number_castElem counterpart whole.2.integral]
      by_cases bytes : e.isByteNegation
      · obtain rfl := eq_u8_of_isByteNegation bytes
        obtain rfl := kept bytes
        obtain rfl : c = cs := Option.some.inj (counterpart.symm.trans inner)
        rw [denotes]
        exact (wrap_number counterpart _).symm
      · rw [Option.some.inj (found.symm.trans (exact bytes))]
    have result : x.convert c = ⟨c, some (t.number (castElem s t (e.valueAt m i)))⟩ := by
      rw [CNumber.convert, found, Option.map_some, value]
    have real : s.isComplex = false := by
      cases s <;> first | rfl | cases inner
    refine ⟨⟨c, some (t.number (castElem s t (e.valueAt m i)))⟩, ?_,
      ⟨rfl, _, rfl, wrap_number counterpart _⟩, fun _ => rfl⟩
    change (renderCast s t (Term.emit e (src.require t)).1).eval _ = _
    simp [renderCast, real, CExpr.eval, CType.integer?, counterpart, operand, result]

end

namespace CExpr

/-- The text of the expression is read as its tree, also where it stands as an operand. -/
def Primary (e : CExpr) : Prop :=
  e.Grouped ∧ 7 ≤ e.level

theorem grouped_sum {es : List CExpr} (terms : ∀ e ∈ es, e.Grouped ∧ 4 < e.level) :
    (sum es).Grouped ∧ 4 ≤ (sum es).level := by
  cases es with
  | nil => exact ⟨trivial, by decide⟩
  | cons e es =>
    obtain ⟨⟨grouped, tight⟩, others⟩ := List.forall_mem_cons.1 terms
    rw [sum]
    have first := And.intro grouped (Nat.le_of_lt tight)
    clear terms grouped tight
    induction es generalizing e with
    | nil => exact first
    | cons e' es ih =>
      obtain ⟨second, others⟩ := List.forall_mem_cons.1 others
      exact ih (binary .add e e') others ⟨⟨first.2, second.2, first.1, second.1⟩, Nat.le_refl 4⟩

end CExpr

theorem KernelSource.grouped_offset (strides : List Int) : (offset strides).Grouped := by
  refine (CExpr.grouped_sum (List.forall_mem_map.2 fun p _ => ?_)).1
  refine ⟨⟨Nat.le_succ 5, ?_, ⟨Nat.le_succ 6, trivial⟩, trivial⟩, Nat.lt_succ_self 4⟩
  rw [CExpr.level]
  split <;> decide

theorem BinaryOp.primary_render (op : BinaryOp) {l r : CExpr} (left : l.Primary)
    (right : r.Primary) : (op.render t l r).Primary := by
  have operands (o : COperator) : (CExpr.binary o l r).Grouped := by
    have below : o.level < 7 := Nat.lt_succ_of_le (Nat.le_succ_of_le o.level_le)
    exact ⟨Nat.le_trans (Nat.le_of_lt below) left.2, Nat.lt_of_lt_of_le below right.2, left.1,
      right.1⟩
  have divisor : (CExpr.binary .equal r (.literal 0 .plain)).Grouped :=
    ⟨Nat.le_trans (by decide) right.2, by decide, right.1, trivial⟩
  refine ⟨?_, ?_⟩ <;> unfold render <;> split
  · split
    · exact ⟨Nat.zero_lt_two, divisor, trivial, operands .div⟩
    · exact operands _
  · exact operands _
  · split <;> exact Nat.le_refl 7
  · exact Nat.le_refl 7

theorem UnaryOp.primary_render (op : UnaryOp) {e : CExpr} (operand : e.Primary) :
    (op.render t e).Primary := by
  unfold render
  split
  · exact ⟨⟨operand.2, operand.1⟩, Nat.le_refl 7⟩
  · split <;> exact ⟨operand.1, Nat.le_refl 7⟩

theorem primary_renderCast (s : DType) {e : CExpr} (operand : e.Primary) :
    (renderCast s t e).Primary := by
  have part : 7 ≤ (CExpr.paren e).level ∧ e.Grouped := ⟨Nat.le_refl 7, operand.1⟩
  unfold renderCast
  split
  · split
    · exact ⟨⟨part, part⟩, Nat.le_refl 7⟩
    · exact ⟨part, Nat.le_refl 7⟩
  · exact ⟨operand.1, Nat.le_refl 7⟩

theorem KernelSource.primary_pushScalar [Numerics] (v : t.Elem) (src : KernelSource) :
    (src.pushScalar t v).1.Primary := by
  unfold pushScalar
  by_cases complex : t.isComplex
  · simp only [complex, ↓reduceIte]
    exact ⟨⟨trivial, trivial⟩, Nat.le_refl 7⟩
  · by_cases integral : t.isIntegral
    all_goals
      simp only [complex, integral, Bool.false_eq_true, ↓reduceIte]
      exact ⟨trivial, Nat.le_refl 7⟩

/-- The text of an emitted kernel is read as the tree that is evaluated. -/
theorem Term.primary_emit [Numerics] (k : Kernel n t) (src : KernelSource) :
    (Term.emit k src).1.Primary := by
  induction k generalizing src with
  | leaf a =>
    cases a with
    | window s =>
      exact ⟨⟨Nat.le_refl 7, trivial, KernelSource.grouped_offset _⟩, Nat.le_refl 7⟩
    | scalar v => exact src.primary_pushScalar v
  | binary op l r ihl ihr => exact op.primary_render (ihl src) (ihr _)
  | unary op e ih => exact op.primary_render (ih src)
  | cast t e ih => exact primary_renderCast _ (ih _)

/-- After any calls that came before, the device stores for an index what the host computes. -/
theorem deviceValue?_eq [Numerics] (k : Kernel n t) (whole : k.Whole)
    (narrowed : k.NegationsNarrowed) {src : KernelSource} (reached : src.Reached) (m : Memory)
    {i : Index n} (reachable : ∀ a ∈ k.leaves, a.2.Reachable i) :
    k.deviceValue? src m i = some (t.number (k.valueAt m i)) := by
  obtain ⟨c, counterpart⟩ := t.exists_integer whole.integral
  obtain ⟨x, value, ⟨-, a, found, same⟩, -⟩ :=
    Term.eval_emit (m := m) counterpart k whole narrowed reachable reached.aligned .refl
  rw [KernelSource.environment] at value
  simp only [Term.deviceValue?, value, CNumber.store, counterpart, CNumber.convert, found, bind,
    Option.bind_some, Option.map_some, same]

-- The second of three numbers is negated as a byte, brought back to one, and divided.
def quotientOfNegation : Kernel 1 .i32 :=
  .binary .div
    (.cast .i32 (.cast .u8 (.unary .neg (.cast .u8 (.leaf (.window secondOfThree))))))
    (.leaf (.scalar (-2 : Int32)))
where
  secondOfThree : Span .i32 1 :=
    .adapt .host ⟨.buffer 0, 1⟩ (.ofFn fun _ => 2)

theorem deviceValue?_quotientOfNegation :
    quotientOfNegation.Whole ∧ quotientOfNegation.NegationsNarrowed ∧
      KernelSource.empty.Reached ∧
      (∀ a ∈ quotientOfNegation.leaves, a.2.Reachable #v[0]) ∧
      quotientOfNegation.deviceValue? .empty threeNumbers #v[0] = some (-118) := by
  have whole : quotientOfNegation.Whole := ⟨⟨rfl, rfl, rfl, rfl, rfl⟩, rfl⟩
  have narrowed : quotientOfNegation.NegationsNarrowed :=
    ⟨⟨⟨⟨trivial, nofun⟩, fun _ => rfl⟩, nofun⟩, trivial, fun _ => ⟨nofun, nofun⟩⟩
  have reachable : ∀ a ∈ quotientOfNegation.leaves, a.2.Reachable #v[0] := by
    rintro a (_ | ⟨_, _ | ⟨_, ⟨⟩⟩⟩)
    · rfl
    · trivial
  refine ⟨whole, narrowed, .refl, reachable, ?_⟩
  rw [deviceValue?_eq _ whole narrowed .refl _ reachable]
  rfl

-- A byte that is negated and widened at once. The code negates it as an `int`, and no cast brings
-- the result back.
def widenedNegation : Kernel 0 .i32 :=
  .cast .i32 (.unary .neg (.leaf (.scalar (t := .u8) 7)))

theorem deviceValue?_widenedNegation :
    widenedNegation.Whole ∧ (∀ a ∈ widenedNegation.leaves, a.2.Reachable #v[]) ∧
      DType.i32.number (widenedNegation.valueAt .empty #v[]) = 249 ∧
      widenedNegation.deviceValue? .empty .empty #v[] = some (-7) := by
  refine ⟨⟨rfl, rfl, rfl⟩, ?_, rfl, rfl⟩
  intro a member
  obtain rfl := List.mem_singleton.1 member
  trivial

end Strided
