import Strided.Text.Character

/-! Reading decimal integers of a bounded range.

The text is read from the left and the first fault decides: a character that is no digit, or the
digit that leaves the range. A single sign may come first.
-/

set_option autoImplicit false

namespace Strided.Text

inductive IntegerFault where
  | empty
  | invalidDigit
  | aboveRange
  | belowRange
  deriving DecidableEq, Repr

def IntegerFault.name : IntegerFault → String
  | .empty => "Empty"
  | .invalidDigit => "InvalidDigit"
  | .aboveRange => "PosOverflow"
  | .belowRange => "NegOverflow"

def readDigits (limit : Nat) (overflow : IntegerFault) : Nat → List Char → Except IntegerFault Nat
  | seen, [] => .ok seen
  | seen, c :: cs =>
    if c.isDigit then
      let grown := seen * 10 + (c.toNat - '0'.toNat)
      if grown ≤ limit then readDigits limit overflow grown cs else .error overflow
    else .error .invalidDigit

def readMagnitude (limit : Nat) (overflow : IntegerFault) : List Char → Except IntegerFault Nat
  | [] => .error .invalidDigit
  | cs => readDigits limit overflow 0 cs

/-- Read a number from zero to `limit`; a plus sign may come first, a minus sign may not. -/
def readNat (limit : Nat) : List Char → Except IntegerFault Nat
  | [] => .error .empty
  | '+' :: cs => readMagnitude limit .aboveRange cs
  | cs => readMagnitude limit .aboveRange cs

/-- Read a number from `-limit - 1` to `limit`. -/
def readInt (limit : Nat) : List Char → Except IntegerFault Int
  | [] => .error .empty
  | '+' :: cs => (readMagnitude limit .aboveRange cs).map Int.ofNat
  | '-' :: cs => (readMagnitude (limit + 1) .belowRange cs).map fun n => -(n : Int)
  | cs => (readMagnitude limit .aboveRange cs).map Int.ofNat

end Strided.Text
