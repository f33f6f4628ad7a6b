import Mathlib.Algebra.Group.Nat.Defs
import Strided.Device.Execution

/-! Index code one statement at a time.

Numbers of the code are of type `size_t`, and what is computed with them is what is computed with
natural numbers as long as nothing grows too large for that type. A statement with a value has one
outcome, and so code has at most one run.
-/

set_option autoImplicit false

namespace Strided

namespace CNumber

def size (k : Nat) : CNumber :=
  ⟨.sizeT, some k⟩

@[simp] theorem value_size (k : Nat) : (size k).value = some (k : Int) := rfl

def word (v : UInt32) : CNumber :=
  ⟨.uint32, some v.toNat⟩

theorem wrap_size {k : Nat} (fits : k < 2 ^ 64) : CInteger.sizeT.wrap k = k :=
  Int.emod_eq_of_lt (Int.natCast_nonneg k) (Int.ofNat_lt.2 fits)

theorem toNat_lt_size (v : UInt32) : v.toNat < 2 ^ 64 :=
  Nat.lt_trans v.toNat_lt (by decide)

theorem convert_word (v : UInt32) : (word v).convert .sizeT = size v.toNat := by
  simp [word, convert, size, wrap_size (toNat_lt_size v)]

section
variable {x y : Nat} (hx : x < 2 ^ 64)
include hx

-- Whatever meets a number of type `size_t` is converted to that type.
theorem combine_size (op : CInteger → Int → Int → Option Int) (c : CInteger) (hy : y < 2 ^ 64) :
    combine op (size x) ⟨c, some y⟩ = ⟨.sizeT, op .sizeT x y⟩ := by
  have meet : CInteger.sizeT.meet c = .sizeT := by cases c <;> rfl
  simp [size, combine, meet, wrap_size hx, wrap_size hy]

theorem add_word {v : UInt32} (fits : x + v.toNat < 2 ^ 64) :
    binary .add (size x) (word v) = size (x + v.toNat) := by
  rw [binary, word, combine_size hx _ _ (toNat_lt_size v), ← Int.natCast_add, wrap_size fits]
  rfl

theorem mul_word {v : UInt32} (fits : x * v.toNat < 2 ^ 64) :
    binary .mul (size x) (word v) = size (x * v.toNat) := by
  rw [binary, word, combine_size hx _ _ (toNat_lt_size v), ← Int.natCast_mul, wrap_size fits]
  rfl

variable (hy : y < 2 ^ 64)
include hy

theorem add_size (fits : x + y < 2 ^ 64) : binary .add (size x) (size y) = size (x + y) := by
  rw [binary, size, size, ← size, combine_size hx _ _ hy, ← Int.natCast_add, wrap_size fits]
  rfl

theorem div_size (nonzero : y ≠ 0) : binary .div (size x) (size y) = size (x / y) := by
  have quotient := wrap_size (Nat.lt_of_le_of_lt (Nat.div_le_self x y) hx)
  have divisor : (y : Int) ≠ 0 := Int.natCast_ne_zero.2 nonzero
  rw [binary, size, size, ← size, combine_size hx _ _ hy, if_neg divisor, ← Int.ofNat_tdiv,
    quotient]
  rfl

theorem rem_size (nonzero : y ≠ 0) : binary .rem (size x) (size y) = size (x % y) := by
  have remainder := wrap_size (Nat.lt_of_le_of_lt (Nat.mod_le x y) hx)
  have divisor : (y : Int) ≠ 0 := Int.natCast_ne_zero.2 nonzero
  rw [binary, size, size, ← size, combine_size hx _ _ hy, if_neg divisor, ← Int.ofNat_tmod,
    remainder]
  rfl

theorem less_size :
    binary .less (size x) (size y) = ⟨.int, some (decide (x < y)).toInt⟩ := by
  rw [binary, compare, size, size, ← size, combine_size hx _ _ hy]
  simp

theorem atLeast_size :
    binary .atLeast (size x) (size y) = ⟨.int, some (decide (y ≤ x)).toInt⟩ := by
  rw [binary, compare, size, size, ← size, combine_size hx _ _ hy]
  simp

end

end CNumber

namespace CScope

variable {scope : CScope} {x : CName}

@[simp] theorem number?_bind (scope : CScope) (x y : CName) (k : Int) :
    (scope.bind x k).env.number? y =
      if y = x then some ⟨.sizeT, some (CInteger.sizeT.wrap k)⟩ else scope.env.number? y := rfl

theorem number?_bind_self (scope : CScope) (x : CName) {k : Nat} (fits : k < 2 ^ 64) :
    (scope.bind x k).env.number? x = some (.size k) := by
  simp [CNumber.size, CNumber.wrap_size fits]

theorem bind_bind (scope : CScope) (x : CName) (j k : Int) :
    (scope.bind x j).bind x k = scope.bind x k := by
  obtain ⟨⟨number?, array?, memory⟩, assignable⟩ := scope
  simp only [bind, CScope.mk.injEq, CEnvironment.mk.injEq, and_true]
  funext y
  by_cases same : y = x <;> simp [same]

theorem assign?_of_mem (assignable : x ∈ scope.assignable) (k : Int) :
    scope.assign? x k = some (scope.bind x k) :=
  if_pos assignable

end CScope

theorem CExpr.eval_binary {env : CEnvironment} (op : COperator) {l r : CExpr} {a b : CNumber}
    (left : l.eval env = some a) (right : r.eval env = some b) :
    (CExpr.binary op l r).eval env = some (.binary op a b) := by
  simp [eval, left, right]

theorem CExpr.value?_of_eval {env : CEnvironment} {e : CExpr} {a : CNumber}
    (evaluated : e.eval env = some a) : e.value? env = a.value := by
  simp [value?, evaluated]

theorem CExpr.value?_or {env : CEnvironment} {l r : CExpr} {first second : Prop}
    [Decidable first] [Decidable second]
    (left : l.eval env = some ⟨.int, some (decide first).toInt⟩)
    (right : r.eval env = some ⟨.int, some (decide second).toInt⟩) :
    CExpr.value? env (.binary .or l r) = some (decide (first ∨ second)).toInt := by
  rw [value?_of_eval (eval_binary .or left right)]
  by_cases holds : first <;> by_cases other : second <;>
    simp [CNumber.binary, CNumber.disjunction, holds, other]

namespace CStatement

variable {scope next : CScope} {x : CName} {e : CExpr} {k : Int} {first : CStatement}

theorem run?_constant (value : e.value? scope.env = some k) :
    (constant x e).run? scope =
      some (.next { scope.bind x k with assignable := scope.assignable.filter (· ≠ x) }) := by
  simp [run?, value]

theorem run?_declare (value : e.value? scope.env = some k) :
    (declare x e).run? scope =
      some (.next { scope.bind x k with assignable := x :: scope.assignable }) := by
  simp [run?, value]

theorem run?_divideBy (value : CExpr.value? scope.env (.binary .div (.name x) e) = some k)
    (assignable : x ∈ scope.assignable) :
    (divideBy x e).run? scope = some (.next (scope.bind x k)) := by
  simp [run?, value, CScope.assign?_of_mem assignable]

theorem run?_returnIf (scope : CScope) {test : Prop} [Decidable test]
    (value : e.value? scope.env = some (decide test).toInt) :
    (returnIf e).run? scope = some (if test then .exit else .next scope) := by
  by_cases holds : test <;> simp [run?, value, holds]

theorem runAll?_next (done : first.run? scope = some (.next next)) (rest : List CStatement) :
    runAll? scope (first :: rest) = runAll? next rest := by
  simp [runAll?, done]

theorem runAll?_exit (left : first.run? scope = some .exit) (rest : List CStatement) :
    runAll? scope (first :: rest) = some .exit := by
  simp [runAll?, left]

end CStatement

theorem CLoop.Runs.unique {l : CLoop} {block : List CStatement} {scope : CScope}
    {bodies others : List CEnvironment} (first : l.Runs block scope bodies)
    (second : l.Runs block scope others) : bodies = others := by
  induction first generalizing others with
  | finished test =>
    cases second with
    | finished => rfl
    | exit test' holds | round test' holds =>
      cases test.symm.trans test'
      exact absurd rfl holds
  | exit test holds left =>
    cases second with
    | finished test' =>
      cases test.symm.trans test'
      exact absurd rfl holds
    | exit => rfl
    | round _ _ done => cases left.symm.trans done
  | round test holds done sum step rest ih =>
    cases second with
    | finished test' =>
      cases test.symm.trans test'
      exact absurd rfl holds
    | exit _ _ left => cases left.symm.trans done
    | round _ _ done' sum' step' rest' =>
      cases done.symm.trans done'
      cases sum.symm.trans sum'
      cases step.symm.trans step'
      rw [ih rest']

-- A step of the code leads to one place, so a run of it is the only one.
theorem IndexCode.Runs.unique {code : IndexCode} {env : CEnvironment}
    {bodies others : List CEnvironment} (first : code.Runs env bodies)
    (second : code.Runs env others) : bodies = others := by
  cases first with
  | body done =>
    cases second with
    | body done' =>
      cases done.symm.trans done'
      rfl
    | exit left => cases left.symm.trans done
  | exit left =>
    cases second with
    | body done => cases left.symm.trans done
    | exit => rfl
  | loop start rounds =>
    cases second with
    | loop start' rounds' =>
      cases start.symm.trans start'
      exact rounds.unique rounds'

end Strided
