import Strided.Device.KernelSource

/-! What device expressions over whole numbers evaluate to.

An operand narrower than `int` is promoted, and two operands meet in one type before they are
combined. Results wrap around in the type that they have, signed ones too. An expression has a type
whatever its operands are, but no value where the language leaves one undefined, as for a division
by zero. A branch that is not taken does not have to have one.
-/

set_option autoImplicit false

namespace Strided

inductive CInteger where
  | uint8
  | int
  | uint32
  | longLong
  | sizeT
  deriving DecidableEq, Repr

namespace CInteger

def modulus : CInteger → Nat
  | uint8 => 256
  | int | uint32 => 4294967296
  | longLong | sizeT => 18446744073709551616

def isSigned : CInteger → Bool
  | int | longLong => true
  | uint8 | uint32 | sizeT => false

/-- The number of the type that differs from a given one by a multiple of the modulus. -/
def wrap (c : CInteger) (x : Int) : Int :=
  if c.isSigned then x.bmod c.modulus else x % c.modulus

/-- The type in which a single operand is computed. -/
def promote : CInteger → CInteger
  | uint8 => int
  | c => c

/-- Of two promoted types, the one with the greater place is that in which they meet. -/
def place : CInteger → Nat
  | uint8 => 0
  | int => 1
  | uint32 => 2
  | longLong => 3
  | sizeT => 4

/-- The type in which two operands are combined. -/
def meet (a b : CInteger) : CInteger :=
  if a.promote.place ≤ b.promote.place then b.promote else a.promote

end CInteger

def DType.integer? : DType → Option CInteger
  | u8 => some .uint8
  | u32 => some .uint32
  | i32 => some .int
  | i64 => some .longLong
  | _ => none

/-- The whole number that an element is; 0 for elements that are none. -/
def DType.number : (t : DType) → t.Elem → Int
  | u8, x => x.toNat
  | u32, x => x.toNat
  | i32, x => x.toInt
  | i64, x => x.toInt
  | _, _ => 0

def CType.integer? : CType → Option CInteger
  | elem t => t.integer?
  | sizeT => some .sizeT
  | longLong => some .longLong
  | double => none

def CSuffix.integer : CSuffix → CInteger
  | plain => .int
  | longLong => .longLong
  | unsignedLongLong => .sizeT

/-- What an expression evaluates to. -/
structure CNumber where
  type : CInteger
  value : Option Int
  deriving DecidableEq, Repr

namespace CNumber

def convert (c : CInteger) (x : CNumber) : CNumber :=
  ⟨c, x.value.map c.wrap⟩

def negate (x : CNumber) : CNumber :=
  ⟨x.type.promote, x.value.map fun v => x.type.promote.wrap (-v)⟩

def combine (op : CInteger → Int → Int → Option Int) (x y : CNumber) : CNumber :=
  let c := x.type.meet y.type
  ⟨c, do op c (c.wrap (← x.value)) (c.wrap (← y.value))⟩

def compare (test : Int → Int → Bool) (x y : CNumber) : CNumber :=
  { combine (fun _ a b => some (test a b).toInt) x y with type := .int }

/-- The second operand of a disjunction counts only if the first one is zero. -/
def disjunction (x y : CNumber) : CNumber :=
  ⟨.int, x.value.bind fun a => if a ≠ 0 then some 1 else y.value.map fun b => (b ≠ 0 : Bool).toInt⟩

def binary : COperator → CNumber → CNumber → CNumber
  | .add => combine fun c a b => some (c.wrap (a + b))
  | .sub => combine fun c a b => some (c.wrap (a - b))
  | .mul => combine fun c a b => some (c.wrap (a * b))
  | .div => combine fun c a b => if b = 0 then none else some (c.wrap (a.tdiv b))
  | .rem => combine fun c a b => if b = 0 then none else some (c.wrap (a.tmod b))
  | .equal => compare fun a b => a = b
  | .less => compare fun a b => a < b
  | .atLeast => compare fun a b => b ≤ a
  | .or => disjunction

/-- The branch that a test selects, in the type in which both meet. -/
def select (test yes no : CNumber) : CNumber :=
  let c := yes.type.meet no.type
  ⟨c, test.value.bind fun k => (if k ≠ 0 then yes.value else no.value).map c.wrap⟩

end CNumber

/-- What the names in an expression stand for. -/
structure CEnvironment where
  number? : CName → Option CNumber
  array? : CName → Option (DType × Address)
  memory : Memory

/-- What an expression evaluates to, if it is one over whole numbers. A literal that is too large
for the type of its suffix stands for the number of that type with the same remainder: in
`-9223372036854775808LL`, the text of the least stride, compilers that accept it read a number that
is negated to the stride. -/
def CExpr.eval (env : CEnvironment) : CExpr → Option CNumber
  | name x => env.number? x
  | literal value suffix => some ⟨suffix.integer, some (suffix.integer.wrap value)⟩
  | paren e => e.eval env
  | negative e => (e.eval env).map CNumber.negate
  | binary op l r => do return .binary op (← l.eval env) (← r.eval env)
  | conditional test yes no => do
    return .select (← test.eval env) (← yes.eval env) (← no.eval env)
  | staticCast type e | leadingCast type e => do return .convert (← type.integer?) (← e.eval env)
  | subscript (name x) index => do
    let (t, a) ← env.array? x
    let c ← t.integer?
    let k ← index.eval env
    return ⟨c, k.value.map fun distance => t.number (env.memory.read t (a.shift distance))⟩
  | _ => none

def CNumber.store (t : DType) (x : CNumber) : Option Int := do
  (x.convert (← t.integer?)).value

def Parameter.bound? (parameters : List Parameter) (arguments : List Argument) (x : CName) :
    Option (Parameter × Argument) :=
  (parameters.zip arguments).find? (·.1.name = x)

/-- The names of a kernel that is run at an index with arguments for its parameters. A buffer has
elements of the type with which it is declared, and a word is read with a sign. -/
def CEnvironment.ofParameters {n : Nat} (parameters : List Parameter) (arguments : List Argument)
    (m : Memory) (i : Index n) : CEnvironment where
  number?
    | .index dim => i.toList[dim]?.map fun k => ⟨.sizeT, some (CInteger.sizeT.wrap k)⟩
    | x =>
      match Parameter.bound? parameters arguments x with
      | some (.word _, .word w) => some ⟨.longLong, some (CInteger.longLong.wrap w.toNat)⟩
      | _ => none
  array? x :=
    match Parameter.bound? parameters arguments x with
    | some (.pointer t _, .address _ a) => some (t, a)
    | _ => none
  memory := m

/-- What the device code of a kernel stores for an index, as a number. -/
def Term.deviceValue? [Numerics] {n : Nat} {t : DType} (k : Kernel n t) (src : KernelSource)
    (m : Memory) (i : Index n) : Option Int := do
  let (e, src) := k.emit src
  (← e.eval (.ofParameters src.parameters src.arguments m i)).store t

end Strided
