import Strided.Device.IndexCode
import Strided.Text.Words

/-! Reading device code.

A text is cut into longest runs of characters that belong together, and blanks between them mean
nothing. What is read are expressions of names, numbers, casts and operators, one level of operators
after the other, and the statements that bind index variables. Parentheses inside an expression hold
the type of a cast and nothing else, so no operator is out of reach of the level that looks for it.
-/

set_option autoImplicit false

namespace Strided

inductive CToken where
  | name (x : CName)
  | number (value : Nat) (suffix : CSuffix)
  /-- An operator between two operands. -/
  | operator (op : COperator)
  | minus
  | opening
  | closing
  | semicolon
  | blockOpening
  | blockClosing
  | assign
  | addAssign
  | divideAssign
  | const
  | sizeT
  /-- The word of which the type of 64 bits is made. -/
  | long
  | forLoop
  | ifTest
  | leave
  deriving DecidableEq, Repr

def CSuffix.ofText? : List Char → Option CSuffix
  | [] => some .plain
  | ['L', 'L'] => some .longLong
  | ['U', 'L', 'L'] => some .unsignedLongLong
  | _ => none

namespace CToken

/-- The words and marks that are always written alike. A minus sign is read as a sign, and so a
difference is not read at all. -/
def spellings : List (String × CToken) :=
  [("(", opening), (")", closing), (";", semicolon), ("\x7b", blockOpening),
    ("\x7d", blockClosing), ("=", assign), ("+=", addAssign), ("/=", divideAssign),
    ("-", minus), ("+", operator .add), ("*", operator .mul), ("/", operator .div),
    ("%", operator .rem), ("==", operator .equal), ("<", operator .less),
    (">=", operator .atLeast), ("||", operator .or), ("const", const), ("size_t", sizeT),
    ("long", long), ("for", forLoop), ("if", ifTest), ("return", leave), ("g", name .element),
    ("r", name .rest), ("z", name .outer), ("blockIdx.x", name (.blockIdx .x)),
    ("blockIdx.y", name (.blockIdx .y)), ("blockIdx.z", name (.blockIdx .z)),
    ("threadIdx.x", name (.threadIdx .x)), ("threadIdx.y", name (.threadIdx .y)),
    ("threadIdx.z", name (.threadIdx .z)), ("blockDim.x", name (.blockDim .x)),
    ("blockDim.y", name (.blockDim .y)), ("blockDim.z", name (.blockDim .z)),
    ("gridDim.x", name (.gridDim .x)), ("gridDim.y", name (.gridDim .y)),
    ("gridDim.z", name (.gridDim .z))]

/-- The number that decimal digits stand for. A number of several digits does not begin with 0. -/
def digits? (cs : List Char) : Option Nat :=
  let k := Nat.ofDigitChars 10 cs 0
  if Nat.toDigits 10 k = cs then some k else none

def numbered? : List Char → Option CToken
  | 'i' :: cs => (digits? cs).map (name <| .index ·)
  | 'p' :: cs => (digits? cs).map (name <| .pointer ·)
  | 's' :: cs => (digits? cs).map (name <| .scalar ·)
  | _ => none

def number? (cs : List Char) : Option CToken := do
  let (digits, suffix) := cs.span Char.isDigit
  return number (← digits? digits) (← CSuffix.ofText? suffix)

def ofPiece? (cs : List Char) : Option CToken :=
  number? cs <|> numbered? cs <|> spellings.lookup (String.ofList cs)

def isNameCharacter (c : Char) : Bool :=
  Text.isWordCharacter c || c == '.'

def isOperatorCharacter (c : Char) : Bool :=
  ['+', '-', '*', '/', '%', '=', '<', '>', '|', '&', '!'].contains c

/-- Two characters that belong to one piece if they follow one another. -/
def joined (a b : Char) : Bool :=
  (isNameCharacter a && isNameCharacter b) || (isOperatorCharacter a && isOperatorCharacter b)

def isBlank (piece : List Char) : Bool :=
  piece == [' '] || piece == ['\n']

/-- Longest runs of characters of one kind, and the other characters one by one. -/
def pieces (s : String) : List (List Char) :=
  (s.toList.splitBy joined).filter (!isBlank ·)

def ofText? (s : String) : Option (List CToken) :=
  (pieces s).mapM ofPiece?

/-- Cut at the operators of one level: the first operand, and the others with their operators. -/
def cut (level : Nat) : List CToken → List CToken × List (COperator × List CToken)
  | [] => ([], [])
  | token :: rest =>
    let (first, more) := cut level rest
    match token with
    | operator op =>
      if op.level = level then ([], (op, first) :: more) else (operator op :: first, more)
    | _ => (token :: first, more)

/-- An operator and its second operand put after an expression. -/
def extend? (read? : List CToken → Option CExpr) (l : CExpr) (part : COperator × List CToken) :
    Option CExpr := do
  return .binary part.1 l (← read? part.2)

/-- Operands of the operators of one level, grouped from the left. -/
def chain? (level : Nat) (read? : List CToken → Option CExpr) (tokens : List CToken) :
    Option CExpr := do
  let parts := cut level tokens
  parts.2.foldlM (extend? read?) (← read? parts.1)

def factor? : List CToken → Option CExpr
  | opening :: sizeT :: closing :: rest => (factor? rest).map (.leadingCast .sizeT)
  | opening :: long :: long :: closing :: rest => (factor? rest).map (.leadingCast .longLong)
  | minus :: rest => (factor? rest).map .negative
  | [name x] => some (.name x)
  | [number k suffix] => some (.literal k suffix)
  | _ => none

/-- An expression whose operators are of the given number of levels, from the tightest one on. -/
def expression? : Nat → List CToken → Option CExpr
  | 0 => factor?
  | levels + 1 => chain? (5 - levels) (expression? levels)

end CToken

namespace CExpr

def ofTokens? (tokens : List CToken) : Option CExpr :=
  CToken.expression? 5 tokens

def read? (s : String) : Option CExpr := do
  ofTokens? (← CToken.ofText? s)

end CExpr

open CToken

namespace CStatement

/-- A statement, without the semicolon after it. -/
def ofTokens? : List CToken → Option CStatement
  | .const :: .sizeT :: .name x :: .assign :: e => (CExpr.ofTokens? e).map (constant x)
  | .sizeT :: .name x :: .assign :: e => (CExpr.ofTokens? e).map (declare x)
  | .name x :: .divideAssign :: e => (CExpr.ofTokens? e).map (divideBy x)
  | .ifTest :: .opening :: rest =>
    match rest.reverse with
    | .leave :: .closing :: test => (CExpr.ofTokens? test.reverse).map returnIf
    | _ => none
  | _ => none

/-- Statements with a semicolon after each. -/
def allOfTokens? (tokens : List CToken) : Option (List CStatement) :=
  match (tokens.splitOn semicolon).reverse with
  | [] :: statements => statements.reverse.mapM ofTokens?
  | _ => none

end CStatement

/-- What stands in front of the block of a loop. -/
def CLoop.ofTokens? (tokens : List CToken) : Option CLoop :=
  match tokens.splitOn semicolon with
  | [.forLoop :: .opening :: declaration, test, .name x :: .addAssign :: rest] => do
    match ← CStatement.ofTokens? declaration, rest.reverse with
    | .declare counter start, .closing :: step =>
      if x = counter then
        return ⟨counter, start, ← CExpr.ofTokens? test, ← CExpr.ofTokens? step.reverse⟩
      else none
    | _, _ => none
  | _ => none

/-- The code that two texts are, one before a body and one after it. -/
def IndexCode.read? (head tail : String) : Option IndexCode := do
  match (← ofText? head).splitOn blockOpening, ← ofText? tail with
  | [block], [] => return ⟨none, [← CStatement.allOfTokens? block]⟩
  | [loop, block], [.blockClosing] =>
    return ⟨some (← CLoop.ofTokens? loop), [← CStatement.allOfTokens? block]⟩
  | _, _ => none

end Strided
