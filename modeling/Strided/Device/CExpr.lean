import Strided.Device.CType

/-! Expressions of device code, and how they are written.

Parentheses are nodes of their own, so a text says exactly what its tree does.
-/

set_option autoImplicit false

namespace Strided

inductive GridAxis where
  | x
  | y
  | z
  deriving DecidableEq, Repr

def GridAxis.text : GridAxis → String
  | x => "x"
  | y => "y"
  | z => "z"

inductive CName where
  /-- The `k`-th buffer of the parameter list. -/
  | pointer (k : Nat)
  /-- The `k`-th word of the parameter list. -/
  | scalar (k : Nat)
  /-- The index variable of a dimension. -/
  | index (dim : Nat)
  /-- The column-major number of an element in a loop over all. -/
  | element
  /-- What is left of an element's number after some dimensions were split off. -/
  | rest
  /-- What is left of a block's third coordinate after some dimensions were split off. -/
  | outer
  | blockIdx (axis : GridAxis)
  | threadIdx (axis : GridAxis)
  | blockDim (axis : GridAxis)
  | gridDim (axis : GridAxis)
  deriving DecidableEq, Repr

def CName.text : CName → String
  | pointer k => s!"p{k}"
  | scalar k => s!"s{k}"
  | index d => s!"i{d}"
  | element => "g"
  | rest => "r"
  | outer => "z"
  | blockIdx a => "blockIdx." ++ a.text
  | threadIdx a => "threadIdx." ++ a.text
  | blockDim a => "blockDim." ++ a.text
  | gridDim a => "gridDim." ++ a.text

inductive COperator where
  | add
  | sub
  | mul
  | div
  | rem
  | equal
  | less
  | atLeast
  | or
  deriving DecidableEq, Repr

def COperator.text : COperator → String
  | add => "+"
  | sub => "-"
  | mul => "*"
  | div => "/"
  | rem => "%"
  | equal => "=="
  | less => "<"
  | atLeast => ">="
  | or => "||"

inductive CFunction where
  /-- The floating-point number with the bits of a word. -/
  | wordAsDouble
  | sqrt
  | exp
  | abs
  | sin
  | cos
  deriving DecidableEq, Repr

def CFunction.text : CFunction → String
  | wordAsDouble => "__longlong_as_double"
  | sqrt => "sqrt"
  | exp => "exp"
  | abs => "abs"
  | sin => "sin"
  | cos => "cos"

inductive CSuffix where
  | plain
  | longLong
  | unsignedLongLong
  deriving DecidableEq, Repr

def CSuffix.text : CSuffix → String
  | plain => ""
  | longLong => "LL"
  | unsignedLongLong => "ULL"

inductive CExpr where
  | name (x : CName)
  | literal (value : Int) (suffix : CSuffix)
  | paren (e : CExpr)
  | negative (e : CExpr)
  | binary (op : COperator) (l r : CExpr)
  | conditional (test yes no : CExpr)
  | staticCast (type : CType) (e : CExpr)
  /-- A cast in front of the expression that follows. -/
  | leadingCast (type : CType) (e : CExpr)
  | call (function : CFunction) (e : CExpr)
  | subscript (array index : CExpr)
  /-- A value of a type made from one value. -/
  | convert (t : DType) (e : CExpr)
  /-- A complex number made from its parts. -/
  | complex (t : DType) (re im : CExpr)
  | realPart (e : CExpr)
  | imaginaryPart (e : CExpr)
  deriving DecidableEq, Repr

namespace CExpr

def text : CExpr → String
  | name x => x.text
  | literal value suffix => toString value ++ suffix.text
  | paren e => "(" ++ e.text ++ ")"
  | negative e => "-" ++ e.text
  | binary op l r => l.text ++ " " ++ op.text ++ " " ++ r.text
  | conditional test yes no => test.text ++ " ? " ++ yes.text ++ " : " ++ no.text
  | staticCast type e => "static_cast<" ++ type.text ++ ">(" ++ e.text ++ ")"
  | leadingCast type e => "(" ++ type.text ++ ")" ++ e.text
  | call function e => function.text ++ "(" ++ e.text ++ ")"
  | subscript array index => array.text ++ "[" ++ index.text ++ "]"
  | convert t e => t.cName ++ "(" ++ e.text ++ ")"
  | complex t re im => t.cName ++ "(" ++ re.text ++ ", " ++ im.text ++ ")"
  | realPart e => e.text ++ ".real()"
  | imaginaryPart e => e.text ++ ".imag()"

/-- Terms added up from left to right; nothing adds up to zero. -/
def sum : List CExpr → CExpr
  | [] => literal 0 .plain
  | e :: es => es.foldl (binary .add) e

end CExpr

/-- How tightly an operator binds. -/
def COperator.level : COperator → Nat
  | or => 1
  | equal => 2
  | less | atLeast => 3
  | add | sub => 4
  | mul | div | rem => 5

theorem COperator.level_pos (op : COperator) : 0 < op.level := by
  cases op <;> decide

theorem COperator.level_le (op : COperator) : op.level ≤ 5 := by
  cases op <;> decide

namespace CExpr

/-- How tightly the outermost part of an expression binds. -/
def level : CExpr → Nat
  | conditional _ _ _ => 0
  | binary op _ _ => op.level
  | negative _ | leadingCast _ _ => 6
  | literal value _ => if value < 0 then 6 else 7
  | _ => 7

/-- Every operand binds as tightly as its place asks for, and operators of one level are grouped
from the left: the text is read as the tree that it was written from. Two signs in a row would be
read as one mark. -/
def Grouped : CExpr → Prop
  | name _ | literal _ _ => True
  | paren e | staticCast _ e | call _ e | convert _ e => e.Grouped
  | negative e => 7 ≤ e.level ∧ e.Grouped
  | leadingCast _ e => 6 ≤ e.level ∧ e.Grouped
  | binary op l r => op.level ≤ l.level ∧ op.level < r.level ∧ l.Grouped ∧ r.Grouped
  | conditional test yes no => 0 < test.level ∧ test.Grouped ∧ yes.Grouped ∧ no.Grouped
  | subscript array index => 7 ≤ array.level ∧ array.Grouped ∧ index.Grouped
  | complex _ re im => re.Grouped ∧ im.Grouped
  | realPart e | imaginaryPart e => 7 ≤ e.level ∧ e.Grouped

end CExpr

end Strided
