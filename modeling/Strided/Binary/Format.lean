/-! Binary floating-point formats, and rounding to them.

A format is given by the widths of its exponent and its fraction. `decode` reads a word as a
significand and a power of two, `encode` rounds such a number to the nearest word, a tie going to
the even one. Words are natural numbers here; the sign is their highest bit.
-/

set_option autoImplicit false

namespace Strided.Binary

structure Format where
  exponentBits : Nat
  fractionBits : Nat
  deriving DecidableEq, Repr

/-- What a word stands for: `mantissa * 2 ^ exponent` when it is finite. -/
inductive Number where
  | nan (negative : Bool)
  | infinite (negative : Bool)
  | finite (negative : Bool) (mantissa : Nat) (exponent : Int)
  deriving DecidableEq, Repr

/-- The whole number nearest to a quotient, a tie going to the even one. -/
def roundQuotient (numerator denominator : Nat) : Nat :=
  let whole := numerator / denominator
  let twice := 2 * (numerator % denominator)
  if twice < denominator then whole
  else if denominator < twice then whole + 1
  else whole + whole % 2

namespace Format

def half : Format := ⟨5, 10⟩
def bfloat : Format := ⟨8, 7⟩
def single : Format := ⟨8, 23⟩
def double : Format := ⟨11, 52⟩

variable (f : Format)

/-- The power of two that one unit in the last place of the smallest numbers stands for. -/
def lowestUnit : Int :=
  2 - (Nat.pow 2 (f.exponentBits - 1) : Nat) - f.fractionBits

def infinity : Nat :=
  (Nat.pow 2 f.exponentBits - 1) * Nat.pow 2 f.fractionBits

def signBit : Nat :=
  Nat.pow 2 (f.exponentBits + f.fractionBits)

def decode (word : Nat) : Number :=
  let negative := word / f.signBit % 2 = 1
  let field := word / Nat.pow 2 f.fractionBits % Nat.pow 2 f.exponentBits
  let fraction := word % Nat.pow 2 f.fractionBits
  if field = Nat.pow 2 f.exponentBits - 1 then
    if fraction = 0 then .infinite negative else .nan negative
  else if field = 0 then .finite negative fraction f.lowestUnit
  else .finite negative (Nat.pow 2 f.fractionBits + fraction) (f.lowestUnit + (field - 1))

/-- The word of a positive number. The significand is rounded to the unit of its binade; a carry
out of the fraction moves on to the exponent by itself, up to infinity. -/
def encodeMagnitude (mantissa : Nat) (exponent : Int) : Nat :=
  let unit := max (mantissa.log2 + exponent - f.fractionBits) f.lowestUnit
  let rounded :=
    if unit ≤ exponent then mantissa * Nat.pow 2 (exponent - unit).toNat
    else roundQuotient mantissa (Nat.pow 2 (unit - exponent).toNat)
  min f.infinity ((unit - f.lowestUnit).toNat * Nat.pow 2 f.fractionBits + rounded)

/-- The nearest word of the format. Not-a-number is written as the quiet one of its sign. -/
def encode : Number → Nat
  | .nan negative =>
    (if negative then f.signBit else 0) + f.infinity + Nat.pow 2 (f.fractionBits - 1)
  | .infinite negative => (if negative then f.signBit else 0) + f.infinity
  | .finite negative mantissa exponent =>
    (if negative then f.signBit else 0) +
      (if mantissa = 0 then 0 else f.encodeMagnitude mantissa exponent)

/-- Read a word of one format and round it to another. -/
def convert (f g : Format) (word : Nat) : Nat :=
  g.encode (f.decode word)

end Format

end Strided.Binary
