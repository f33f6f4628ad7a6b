import Strided.Proofs.Coverage
import Strided.Proofs.Executing

/-! The index code of a plan walks as the plan does.

None of the sums and products of the code is too large for its type. So the position of a lane, the
guards, the unpacking by division with remainder and the loop do what the plan does with natural
numbers.
-/

set_option autoImplicit false

namespace Strided

variable {n : Nat}

namespace IndexCode

theorem eval_literal {env : CEnvironment} {e : Nat} (fits : e < 2 ^ 64) :
    (literal e).eval env = some (.size e) := by
  simp [literal, CExpr.eval, CSuffix.integer, CNumber.wrap_size fits, CNumber.size]

section
variable {env : CEnvironment} {x : CName} {e k : Nat}
  (known : (CExpr.name x).eval env = some (.size k)) (fits : k < 2 ^ 64) (extent : e < 2 ^ 64)
include known fits extent

theorem value?_rem (nonzero : e ≠ 0) :
    CExpr.value? env (.binary .rem (.name x) (literal e)) = some ((k % e : Nat) : Int) := by
  rw [CExpr.value?_of_eval (CExpr.eval_binary _ known (eval_literal extent)),
    CNumber.rem_size fits extent nonzero, CNumber.value_size]

theorem value?_div (nonzero : e ≠ 0) :
    CExpr.value? env (.binary .div (.name x) (literal e)) = some ((k / e : Nat) : Int) := by
  rw [CExpr.value?_of_eval (CExpr.eval_binary _ known (eval_literal extent)),
    CNumber.div_size fits extent nonzero, CNumber.value_size]

theorem value?_less :
    CExpr.value? env (.binary .less (.name x) (literal e)) = some (decide (k < e)).toInt := by
  rw [CExpr.value?_of_eval (CExpr.eval_binary _ known (eval_literal extent)),
    CNumber.less_size fits extent]

theorem eval_atLeast :
    CExpr.eval env (.binary .atLeast (.name x) (literal e)) =
      some ⟨.int, some (decide (e ≤ k)).toInt⟩ := by
  rw [CExpr.eval_binary _ known (eval_literal extent), CNumber.atLeast_size fits extent]

end

/-- The names that describe the grid are those of one of its lanes. -/
structure Lies (p : LaunchPlan n) (block lane : Dim3) (env : CEnvironment) : Prop where
  block : ∀ a, env.number? (.blockIdx a) = some (.word (block.along a))
  lane : ∀ a, env.number? (.threadIdx a) = some (.word (lane.along a))
  blockDim : ∀ a, env.number? (.blockDim a) = some (.word (p.block.along a))
  gridDim : ∀ a, env.number? (.gridDim a) = some (.word (p.grid.along a))

theorem lies_atLane (env : CEnvironment) (p : LaunchPlan n) (block lane : Dim3) :
    Lies p block lane (env.atLane p block lane) :=
  ⟨fun _ => rfl, fun _ => rfl, fun _ => rfl, fun _ => rfl⟩

def lanePosition (p : LaunchPlan n) (block lane : Dim3) (a : GridAxis) : Nat :=
  (block.along a).toNat * (p.block.along a).toNat + (lane.along a).toNat

theorem lanePosition_lt (p : LaunchPlan n) (block lane : Dim3) (a : GridAxis) :
    lanePosition p block lane a < 2 ^ 64 := by
  have scaled := Nat.mul_le_mul (Nat.le_of_lt_succ (block.along a).toNat_lt)
    (Nat.le_of_lt_succ (p.block.along a).toNat_lt)
  have last := (lane.along a).toNat_lt
  unfold lanePosition
  omega

section
variable {p : LaunchPlan n} {block lane : Dim3}

theorem Lies.value?_lane {env : CEnvironment} (lies : Lies p block lane env) (a : GridAxis) :
    (IndexCode.lane a).value? env = some (lanePosition p block lane a : Int) := by
  have fits := lanePosition_lt p block lane a
  have product := Nat.lt_of_le_of_lt (Nat.le_add_right _ _) fits
  have first : (CExpr.leadingCast .sizeT (.name (.blockIdx a))).eval env =
      some (.size (block.along a).toNat) := by
    rw [← CNumber.convert_word, CExpr.eval, CExpr.eval, lies.block]
    rfl
  have second : (CExpr.name (.blockDim a)).eval env = some (.word (p.block.along a)) :=
    lies.blockDim a
  have third : (CExpr.name (.threadIdx a)).eval env = some (.word (lane.along a)) := lies.lane a
  rw [IndexCode.lane,
    CExpr.value?_of_eval (CExpr.eval_binary _ (CExpr.eval_binary _ first second) third),
    CNumber.mul_word (CNumber.toNat_lt_size _) product, CNumber.add_word product fits,
    CNumber.value_size, lanePosition]

theorem Lies.eval_stride {env : CEnvironment} (lies : Lies p block lane env)
    (fits : p.grid.x.toNat * p.block.x.toNat < 2 ^ 64) :
    (CExpr.binary .mul (.leadingCast .sizeT (.name (.blockDim .x))) (.name (.gridDim .x))).eval
      env = some (.size (p.grid.x.toNat * p.block.x.toNat)) := by
  rw [Nat.mul_comm] at fits ⊢
  have first : (CExpr.leadingCast .sizeT (.name (.blockDim .x))).eval env =
      some (.size p.block.x.toNat) := by
    rw [CExpr.eval, CExpr.eval, lies.blockDim, Option.bind_eq_bind]
    exact congrArg some (CNumber.convert_word p.block.x)
  have second : (CExpr.name (.gridDim .x)).eval env = some (.word p.grid.x) := lies.gridDim .x
  rw [CExpr.eval_binary _ first second, CNumber.mul_word (CNumber.toNat_lt_size _) fits]

theorem Lies.bind_element {scope : CScope} (lies : Lies p block lane scope.env) (k : Int) :
    Lies p block lane (scope.bind .element k).env := by
  obtain ⟨block, lane, blockDim, gridDim⟩ := lies
  constructor <;> simpa

end

/-- A variable off which components are split. -/
inductive Remainder : CName → Prop where
  | rest : Remainder .rest
  | outer : Remainder .outer

theorem Remainder.ne_index {x : CName} (remainder : Remainder x) (d : Nat) : x ≠ .index d := by
  cases remainder <;> nofun

/-- The names after the components of some dimensions, from `dim` on, were split off `x`. -/
structure Splits (x : CName) (dim : Nat) (is : List Nat) (before after : CScope) : Prop where
  index : ∀ (d k : Nat), is[d]? = some k → after.env.number? (.index (dim + d)) = some (.size k)
  others : ∀ y, y ≠ x → (∀ d < is.length, y ≠ .index (dim + d)) →
    after.env.number? y = before.env.number? y
  array : after.env.array? = before.env.array?
  memory : after.env.memory = before.env.memory

theorem Splits.lies {x : CName} (remainder : Remainder x) {dim : Nat} {is : List Nat}
    {before after : CScope} (splits : Splits x dim is before after) {p : LaunchPlan n}
    {block lane : Dim3} (lies : Lies p block lane before.env) : Lies p block lane after.env := by
  have kept (y : CName) (grid : ∀ d, y ≠ .index d) (other : ¬ Remainder y) :
      after.env.number? y = before.env.number? y :=
    splits.others y (fun same => other (same ▸ remainder)) fun d _ => grid (dim + d)
  constructor
  · exact fun a => (kept (.blockIdx a) nofun nofun).trans (lies.block a)
  · exact fun a => (kept (.threadIdx a) nofun nofun).trans (lies.lane a)
  · exact fun a => (kept (.blockDim a) nofun nofun).trans (lies.blockDim a)
  · exact fun a => (kept (.gridDim a) nofun nofun).trans (lies.gridDim a)

-- The component of one dimension is written down, and no other name is touched.
theorem exists_run?_component (scope : CScope) (dim : Nat) {e : CExpr} {k : Nat} (fits : k < 2 ^ 64)
    (value : e.value? scope.env = some (k : Int)) :
    ∃ next : CScope, (CStatement.constant (.index dim) e).run? scope = some (.next next) ∧
      (∀ x, Splits x dim [k] scope next) ∧
      ∀ x ∈ scope.assignable, x ≠ .index dim → x ∈ next.assignable := by
  refine ⟨_, CStatement.run?_constant value, fun x => ⟨?_, ?_, rfl, rfl⟩, ?_⟩
  · intro d i given
    cases d with
    | zero =>
      obtain rfl := Option.some.inj given
      exact CScope.number?_bind_self scope _ fits
    | succ d => cases given
  · intro y _ outside
    have away : y ≠ .index dim := outside 0 Nat.one_pos
    simp [away]
  · intro x assignable other
    simp [assignable, other]

section
variable {x : CName} (remainder : Remainder x)
include remainder

theorem Splits.cons {dim i : Nat} {is : List Nat} {before middle after : CScope}
    (first : Splits x dim [i] before middle) (rest : Splits x (dim + 1) is middle after) :
    Splits x dim (i :: is) before after where
  index := by
    intro d k given
    cases d with
    | zero =>
      have below (d : Nat) : CName.index (dim + 0) ≠ .index (dim + 1 + d) := by
        simp only [ne_eq, CName.index.injEq]
        omega
      rw [rest.others _ (remainder.ne_index _).symm fun d _ => below d]
      exact first.index 0 k given
    | succ d =>
      rw [← Nat.add_assoc, Nat.add_right_comm]
      exact rest.index d k given
  others := by
    intro y other outside
    rw [rest.others y other, first.others y other]
    · intro d below
      exact outside d (Nat.lt_of_lt_of_le below (Nat.le_add_left 1 is.length))
    · intro d below
      rw [Nat.add_right_comm, Nat.add_assoc]
      exact outside (d + 1) (Nat.succ_lt_succ below)
  array := rest.array.trans first.array
  memory := rest.memory.trans first.memory

theorem Splits.bind {dim : Nat} {is : List Nat} {before after : CScope}
    (splits : Splits x dim is before after) (r : Int) :
    Splits x dim is before (after.bind x r) where
  index := by
    intro d k given
    rw [CScope.number?_bind, if_neg (remainder.ne_index _).symm]
    exact splits.index d k given
  others := by
    intro y other outside
    rw [CScope.number?_bind, if_neg other]
    exact splits.others y other outside
  array := splits.array
  memory := splits.memory

-- A component is taken while its number is still there, and then the number goes down.
theorem exists_runAll?_splitAll {es : List Nat} (filled : Radix.size es ≠ 0)
    (extents : ∀ e ∈ es, e < 2 ^ 64) (scope : CScope) (dim : Nat) {r : Nat} (fits : r < 2 ^ 64)
    (known : scope.env.number? x = some (.size r)) (assignable : x ∈ scope.assignable) :
    ∃ after : CScope, CStatement.runAll? scope (splitAll x dim es).flatten = some (.next after) ∧
      Splits x dim (Radix.digits es r) scope after := by
  induction es generalizing scope dim r with
  | nil => exact ⟨scope, rfl, nofun, fun _ _ _ => rfl, rfl, rfl⟩
  | cons e es ih =>
    have nonzero : e ≠ 0 := fun zero => filled (by simp [Radix.size, zero])
    have rest : Radix.size es ≠ 0 := fun zero => filled (by simp [Radix.size, zero])
    obtain ⟨extent, extents⟩ := List.forall_mem_cons.1 extents
    have quotient : r / e < 2 ^ 64 := Nat.lt_of_le_of_lt (Nat.div_le_self r e) fits
    have below : r % e < 2 ^ 64 := Nat.lt_of_le_of_lt (Nat.mod_le r e) fits
    obtain ⟨middle, first, component, free⟩ := exists_run?_component scope dim below
      (value?_rem known fits extent nonzero)
    have kept := (component (.index dim)).others x (remainder.ne_index dim) fun d _ =>
      remainder.ne_index (dim + d)
    have free := free x assignable (remainder.ne_index dim)
    have second := CStatement.run?_divideBy
      (value?_div (kept.trans known) fits extent nonzero) free
    obtain ⟨after, done, splits⟩ := ih rest extents _ (dim + 1) quotient
      (CScope.number?_bind_self middle x quotient) free
    refine ⟨after, ?_, ((component x).bind remainder _).cons remainder splits⟩
    rw [splitAll, List.flatten_cons, splitOff, List.cons_append, List.cons_append,
      List.nil_append, CStatement.runAll?_next first, CStatement.runAll?_next second, done]

theorem exists_runAll?_unpack {es : List Nat} (filled : Radix.size es ≠ 0)
    (extents : ∀ e ∈ es, e < 2 ^ 64) {scope : CScope} {e : CExpr} {dim r : Nat}
    (fits : r < 2 ^ 64) (value : e.value? scope.env = some (r : Int)) :
    ∃ after : CScope,
      CStatement.runAll? scope (.declare x e :: (splitAll x dim es).flatten) =
        some (.next after) ∧ Splits x dim (Radix.digits es r) scope after := by
  obtain ⟨after, done, splits⟩ := exists_runAll?_splitAll remainder filled extents
    { scope.bind x (r : Int) with assignable := x :: scope.assignable } dim fits
    (CScope.number?_bind_self scope x fits) List.mem_cons_self
  refine ⟨after, ?_, splits.index, ?_, splits.array, splits.memory⟩
  · rw [CStatement.runAll?_next (CStatement.run?_declare value), done]
  · intro y other outside
    rw [splits.others y other outside]
    exact if_neg other

end

theorem declared_splitAll (x : CName) (dim : Nat) (es : List Nat) :
    (splitAll x dim es).flatten.filterMap CStatement.declared? =
      (List.range' dim es.length).map .index := by
  induction es generalizing dim with
  | nil => rfl
  | cons e es ih =>
    rw [splitAll, List.flatten_cons, List.filterMap_append, ih, List.length_cons,
      List.range'_succ]
    rfl

-- All that the block of a loop gives a number to is its own.
theorem Splits.leave {x : CName} {es is : List Nat} {e : CExpr} {scope inner : CScope}
    (splits : Splits x 0 is scope inner) (same : is.length = es.length) :
    scope.leave (.declare x e :: (splitAll x 0 es).flatten) inner = scope := by
  obtain ⟨⟨number?, array?, memory⟩, assignable⟩ := scope
  obtain ⟨-, others, array, memory⟩ := splits
  simp only [CScope.leave, array, memory, CScope.mk.injEq, CEnvironment.mk.injEq, and_true]
  have declared : (CStatement.declare x e :: (splitAll x 0 es).flatten).filterMap
      CStatement.declared? = x :: (List.range' 0 es.length).map .index :=
    congrArg (x :: ·) (declared_splitAll x 0 es)
  funext y
  rw [declared]
  split
  · rfl
  · rename_i outside
    rw [List.mem_cons, not_or] at outside
    apply others y outside.1
    rintro d below rfl
    apply outside.2
    simp only [List.mem_map, List.mem_range'_1]
    exact ⟨_, ⟨by omega, by omega⟩, rfl⟩

theorem Splits.binds {x : CName} (remainder : Remainder x) {is : List Nat} {env : CEnvironment}
    {before after : CScope} (splits : Splits x 0 is before after)
    (scalar : ∀ k, before.env.number? (.scalar k) = env.number? (.scalar k))
    (array : before.env.array? = env.array?) (memory : before.env.memory = env.memory) :
    env.Binds is after.env where
  index := by
    intro d k given
    rw [← Nat.zero_add d]
    exact splits.index d k given
  scalar := by
    intro k
    have other : CName.scalar k ≠ x := by cases remainder <;> nofun
    rw [splits.others _ other (by simp), scalar]
  array := splits.array.trans array
  memory := splits.memory.trans memory

theorem extent_lt {es : List Nat} (filled : Radix.size es ≠ 0) (limit : Radix.size es < 2 ^ 63) :
    ∀ e ∈ es, e < 2 ^ 64 := by
  intro e member
  have divides : e ∣ Radix.size es := by
    clear filled limit
    induction es with
    | nil => cases member
    | cons e' es ih =>
      rcases List.mem_cons.1 member with rfl | member
      · exact Nat.dvd_mul_right _ _
      · exact Nat.dvd_mul_left_of_dvd (ih member) _
  have := Nat.le_of_dvd (Nat.pos_of_ne_zero filled) divides
  omega

def elementLoop (es : List Nat) : CLoop where
  counter := .element
  start := IndexCode.lane .x
  test := .binary .less (.name .element) (literal (Radix.size es))
  step := .binary .mul (.leadingCast .sizeT (.name (.blockDim .x))) (.name (.gridDim .x))

def loopBlock (es : List Nat) : List CStatement :=
  .declare .rest (.name .element) :: (splitAll .rest 0 es).flatten

def roundScope (env : CEnvironment) (p : LaunchPlan n) (block lane : Dim3) (g : Nat) : CScope :=
  (⟨env.atLane p block lane, [.element]⟩ : CScope).bind .element g

theorem eval_element (env : CEnvironment) (p : LaunchPlan n) (block lane : Dim3) {g : Nat}
    (fits : g < 2 ^ 64) :
    (CExpr.name .element).eval (roundScope env p block lane g).env = some (.size g) :=
  CScope.number?_bind_self _ _ fits

section
variable (env : CEnvironment) {p : LaunchPlan n} {block lane : Dim3}

section
variable {es : List Nat} (filled : Radix.size es ≠ 0) (limit : Radix.size es < 2 ^ 63)
  (strides : p.grid.x.toNat * p.block.x.toNat < 2 ^ 63)
include filled limit strides

-- A round visits one number, and the next round begins a stride further on.
theorem exists_round {g : Nat} (before : g < Radix.size es) :
    ∃ body, env.Binds (Radix.digits es g) body ∧
      ∀ bodies,
        (elementLoop es).Runs (loopBlock es)
          (roundScope env p block lane (g + p.grid.x.toNat * p.block.x.toNat)) bodies →
        (elementLoop es).Runs (loopBlock es) (roundScope env p block lane g) (body :: bodies) := by
  have fits : g < 2 ^ 64 := Nat.lt_trans before (Nat.lt_trans limit (by decide))
  have known := eval_element env p block lane fits
  have test := value?_less known fits (Nat.lt_trans limit (by decide))
  rw [decide_eq_true before] at test
  obtain ⟨inner, done, splits⟩ := exists_runAll?_unpack .rest filled (extent_lt filled limit) fits
    (CExpr.value?_of_eval known)
  have left : (roundScope env p block lane g).leave (loopBlock es) inner =
      roundScope env p block lane g := splits.leave (Radix.length_digits es g)
  have lies : Lies p block lane (roundScope env p block lane g).env :=
    (lies_atLane env p block lane).bind_element g
  have step := lies.eval_stride (Nat.lt_trans strides (by decide))
  have sum := CExpr.value?_of_eval (CExpr.eval_binary .add known step)
  rw [CNumber.add_size fits (Nat.lt_trans strides (by decide)) (by omega),
    CNumber.value_size] at sum
  have moved : (roundScope env p block lane g).assign? .element
      ((g + p.grid.x.toNat * p.block.x.toNat : Nat) : Int) =
        some (roundScope env p block lane (g + p.grid.x.toNat * p.block.x.toNat)) := by
    rw [CScope.assign?_of_mem List.mem_cons_self, roundScope, CScope.bind_bind, roundScope]
  refine ⟨inner.env, splits.binds .rest (fun _ => rfl) rfl rfl, fun bodies rest => ?_⟩
  rw [← left] at sum moved
  exact .round test Int.one_ne_zero done sum moved rest

theorem exists_runs_elementLoop {g : Nat} {gs : List Nat}
    (walk : LaunchPlan.StrideLoop (Radix.size es) (p.grid.x.toNat * p.block.x.toNat) g gs)
    (fits : g < 2 ^ 64) :
    ∃ bodies, (elementLoop es).Runs (loopBlock es) (roundScope env p block lane g) bodies ∧
      List.Forall₂ (fun body g => env.Binds (Radix.digits es g) body) bodies gs := by
  induction walk with
  | stop past =>
    have known := eval_element env p block lane fits
    have test := value?_less known fits (Nat.lt_trans limit (by decide))
    rw [decide_eq_false (Nat.not_lt.2 past)] at test
    exact ⟨[], .finished test, .nil⟩
  | visit before rest ih =>
    obtain ⟨body, binds, round⟩ :=
      exists_round env filled limit strides before
    obtain ⟨bodies, rounds, bound⟩ := ih (by omega)
    exact ⟨body :: bodies, round bodies rounds, .cons binds bound⟩

end

-- Without further dimensions there is nothing to unpack, and no variable for it.
theorem exists_runAll?_outer {outer : List Nat} (filled : Radix.size outer ≠ 0)
    (extents : ∀ e ∈ outer, e < 2 ^ 64) {scope : CScope} (lies : Lies p block lane scope.env) :
    ∃ after, CStatement.runAll? scope
        ((if outer = [] then [] else [[CStatement.declare .outer (.name (.blockIdx .z))]]) ++
          splitAll .outer 2 outer).flatten = some (.next after) ∧
      Splits .outer 2 (Radix.digits outer block.z.toNat) scope after := by
  cases outer with
  | nil => exact ⟨scope, rfl, nofun, fun _ _ _ => rfl, rfl, rfl⟩
  | cons e es =>
    have value : (CExpr.name (.blockIdx .z)).value? scope.env = some (block.z.toNat : Int) :=
      CExpr.value?_of_eval (e := .name (.blockIdx .z)) (lies.block .z)
    exact exists_runAll?_unpack .outer filled extents (CNumber.toNat_lt_size block.z) value

variable (block lane)

theorem exists_runs_linear {es : List Nat} (filled : Radix.size es ≠ 0)
    (limit : Radix.size es < 2 ^ 63) (moves : 0 < p.grid.x.toNat * p.block.x.toNat)
    (strides : p.grid.x.toNat * p.block.x.toNat < 2 ^ 63) :
    ∃ bodies, (linear es).Runs (env.atLane p block lane) bodies ∧
      List.Forall₂ (fun body g => env.Binds (Radix.digits es g) body) bodies
        (LaunchPlan.stridesBelow (Radix.size es) (lanePosition p block lane .x)
          (p.grid.x.toNat * p.block.x.toNat)) := by
  have start := (lies_atLane env p block lane).value?_lane .x
  obtain ⟨bodies, rounds, bound⟩ := exists_runs_elementLoop env filled limit strides
    (LaunchPlan.strideLoop_stridesBelow moves _) (lanePosition_lt p block lane .x)
  exact ⟨bodies, .loop (CStatement.run?_declare start) rounds, bound⟩

-- The lane's position along one axis is written down as a component.
theorem exists_position (scope : CScope) (dim : Nat) (a : GridAxis)
    (lies : Lies p block lane scope.env) :
    ∃ next : CScope,
      (CStatement.constant (.index dim) (IndexCode.lane a)).run? scope = some (.next next) ∧
      Splits .outer dim [lanePosition p block lane a] scope next ∧ Lies p block lane next.env := by
  obtain ⟨next, done, component, -⟩ :=
    exists_run?_component scope dim (lanePosition_lt p block lane a) (lies.value?_lane a)
  exact ⟨next, done, component .outer, (component .outer).lies .outer lies⟩

-- The body is run once if the lane has an index, and not at all if it has none.
theorem exists_runs_row {e : Nat} (extent : e < 2 ^ 64) {inside : Prop} [Decidable inside]
    (within : inside ↔ lanePosition p block lane .x < e) :
    ∃ bodies, (tiled [e]).Runs (env.atLane p block lane) bodies ∧
      List.Forall₂ (fun body is => env.Binds is body) bodies
        (if inside then [[lanePosition p block lane .x]] else []) := by
  have fits := lanePosition_lt p block lane .x
  obtain ⟨scope, first, splits, -⟩ := exists_position block lane ⟨env.atLane p block lane, []⟩ 0 .x
    (lies_atLane env p block lane)
  have guard := CStatement.run?_returnIf scope (CExpr.value?_of_eval
    (eval_atLeast (x := .index 0) (splits.index 0 _ rfl) fits extent))
  by_cases here : inside
  · rw [if_neg (Nat.not_le.2 (within.1 here))] at guard
    rw [if_pos here]
    refine ⟨[scope.env], .body ?_, .cons (splits.binds .outer (fun _ => rfl) rfl rfl) .nil⟩
    exact (CStatement.runAll?_next first _).trans (CStatement.runAll?_next guard _)
  · rw [if_pos (Nat.not_lt.1 (mt within.2 here))] at guard
    rw [if_neg here]
    refine ⟨[], .exit ?_, .nil⟩
    exact (CStatement.runAll?_next first _).trans (CStatement.runAll?_exit guard _)

theorem exists_runs_rectangle {e₀ e₁ : Nat} {outer : List Nat}
    (filled : Radix.size (e₀ :: e₁ :: outer) ≠ 0) (limit : Radix.size (e₀ :: e₁ :: outer) < 2 ^ 63)
    {inside : Prop} [Decidable inside]
    (within : inside ↔ lanePosition p block lane .x < e₀ ∧ lanePosition p block lane .y < e₁) :
    ∃ bodies, (tiled (e₀ :: e₁ :: outer)).Runs (env.atLane p block lane) bodies ∧
      List.Forall₂ (fun body is => env.Binds is body) bodies
        (if inside then
          [lanePosition p block lane .x :: lanePosition p block lane .y ::
            Radix.digits outer block.z.toNat] else []) := by
  obtain ⟨extent₀, extents⟩ := List.forall_mem_cons.1 (extent_lt filled limit)
  obtain ⟨extent₁, extents⟩ := List.forall_mem_cons.1 extents
  have fits := lanePosition_lt p block lane
  obtain ⟨scope₁, first, splits₁, lies⟩ := exists_position block lane
    ⟨env.atLane p block lane, []⟩ 0 .x (lies_atLane env p block lane)
  obtain ⟨scope, second, splits₂, lies⟩ := exists_position block lane scope₁ 1 .y lies
  have splits := splits₁.cons .outer splits₂
  have guard := CStatement.run?_returnIf scope (CExpr.value?_or
    (eval_atLeast (x := .index 0) (splits.index 0 _ rfl) (fits .x) extent₀)
    (eval_atLeast (x := .index 1) (splits.index 1 _ rfl) (fits .y) extent₁))
  have beyond : (e₀ ≤ lanePosition p block lane .x ∨ e₁ ≤ lanePosition p block lane .y) ↔
      ¬ inside := by
    rw [within]
    omega
  by_cases here : inside
  · rw [if_neg fun outside => beyond.1 outside here] at guard
    rw [if_pos here]
    have rest : Radix.size outer ≠ 0 := fun zero => filled (by simp [Radix.size, zero])
    obtain ⟨after, done, unpacked⟩ := exists_runAll?_outer rest extents lies
    have body : CStatement.runAll? ⟨env.atLane p block lane, []⟩
        (tiled (e₀ :: e₁ :: outer)).lines.flatten = some (.next after) :=
      (CStatement.runAll?_next first _).trans ((CStatement.runAll?_next second _).trans
        ((CStatement.runAll?_next guard _).trans done))
    have splits := splits₁.cons .outer (splits₂.cons .outer unpacked)
    exact ⟨[after.env], .body body, .cons (splits.binds .outer (fun _ => rfl) rfl rfl) .nil⟩
  · rw [if_pos (beyond.2 here)] at guard
    rw [if_neg here]
    refine ⟨[], .exit ?_, .nil⟩
    exact (CStatement.runAll?_next first _).trans ((CStatement.runAll?_next second _).trans
      (CStatement.runAll?_exit guard _))

theorem exists_runs_tiled {es : List Nat} (ranked : es ≠ []) (filled : Radix.size es ≠ 0)
    (limit : Radix.size es < 2 ^ 63) {inside : Prop} [Decidable inside] {index : List Nat}
    (same : index = LaunchPlan.tileDigits (lanePosition p block lane .x)
      (lanePosition p block lane .y) block.z.toNat es) (within : inside ↔ Radix.Within es index) :
    ∃ bodies, (tiled es).Runs (env.atLane p block lane) bodies ∧
      List.Forall₂ (fun body is => env.Binds is body) bodies (if inside then [index] else []) := by
  rw [same, LaunchPlan.within_tileDigits filled] at within
  subst same
  match es with
  | [e] =>
    have extent := extent_lt filled limit e List.mem_cons_self
    exact exists_runs_row env block lane extent (within.trans (and_iff_left trivial))
  | e₀ :: e₁ :: outer =>
    refine exists_runs_rectangle env block lane filled limit (within.trans ?_)
    simp [Radix.Within]

end

end IndexCode

namespace LaunchPlan

theorem Planned.narrow {s : Shape n} {c : ExecConfig} {p : LaunchPlan n} (valid : c.Valid)
    (planned : Planned s c p) : p.block.x.toNat ≤ ExecConfig.maxLanes := by
  obtain ⟨tile, row, line⟩ := valid.blocksFit
  cases planned with
  | line => exact line
  | row => exact row
  | tiles => exact Nat.le_trans (Nat.le_mul_of_pos_right _ valid.blockY) tile

-- Nothing to walk is planned as a line without blocks.
theorem Planned.filled {s : Shape n} {c : ExecConfig} {p : LaunchPlan n} (valid : c.Valid)
    (planned : Planned s c p) {b : Dim3} (inside : b.Below p.grid) : s.size ≠ 0 := by
  intro empty
  cases planned with
  | line =>
    have none : pieces s.size c.blockLinear.toNat = 0 := by
      rw [empty, pieces, Nat.zero_add]
      exact Nat.div_eq_of_lt (Nat.pred_lt (Nat.ne_of_gt valid.blockLinear))
    have before := inside.1
    simp [Dim3.ofNats, none] at before
  | row _ filled => exact filled empty
  | tiles _ filled => exact filled empty

theorem indexCode_of_tiled {p : LaunchPlan n} (tiled : p.strategy ≠ .linear) :
    p.indexCode = .tiled p.shape.toList := by
  unfold indexCode
  split
  · contradiction
  · rfl
  · rfl

section
variable {p : LaunchPlan n} (filled : p.shape.size ≠ 0) (limit : p.shape.size < 2 ^ 63)
  (env : CEnvironment) (block lane : Dim3)
include filled limit

theorem Lined.exists_runs (lined : p.Lined) (narrow : p.block.x.toNat ≤ ExecConfig.maxLanes) :
    ∃ bodies, p.indexCode.Runs (env.atLane p block lane) bodies ∧
      List.Forall₂ (fun body i => env.Binds i.toList body) bodies
        (p.laneIndices block lane.x.toNat lane.y.toNat) := by
  have moves : 0 < p.grid.x.toNat * p.block.x.toNat :=
    Nat.mul_pos (lined.gridX filled) lined.laneX
  have strides : p.grid.x.toNat * p.block.x.toNat < 2 ^ 63 :=
    Nat.lt_of_le_of_lt (Nat.mul_le_mul (Nat.le_of_lt p.grid.x.toNat_lt) narrow) (by decide)
  obtain ⟨bodies, runs, bound⟩ := IndexCode.exists_runs_linear env block lane filled limit moves
    strides
  refine ⟨bodies, ?_, ?_⟩
  · simpa only [indexCode, lined.line] using runs
  · simp only [laneIndices, lined.line, List.forall₂_map_right_iff]
    exact bound

theorem Tiled.exists_runs (tiled : p.Tiled) :
    ∃ bodies, p.indexCode.Runs (env.atLane p block lane) bodies ∧
      List.Forall₂ (fun body i => env.Binds i.toList body) bodies
        (p.laneIndices block lane.x.toNat lane.y.toNat) := by
  obtain ⟨index, same, visits⟩ :=
    laneIndices_of_tiled tiled.tiled block lane.x.toNat lane.y.toNat
  obtain ⟨bodies, runs, bound⟩ := IndexCode.exists_runs_tiled env block lane tiled.ranked filled
    limit same Shape.contains_iff_within
  refine ⟨bodies, ?_, ?_⟩
  · rwa [indexCode_of_tiled tiled.tiled]
  · have mapped : (if p.shape.Contains index then [index] else []).map Vector.toList =
        if p.shape.Contains index then [index.toList] else [] := apply_ite _ _ _ _
    rw [visits]
    exact List.forall₂_map_right_iff.1 (mapped ▸ bound)

end

end LaunchPlan

end Strided
