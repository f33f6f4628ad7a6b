import Strided.Decimal.Shortest

/-! Written forms of floating-point numbers. -/

set_option autoImplicit false

namespace Strided.Decimal

structure Style where
  /-- The least power of ten of the first digit that is written without an exponent. -/
  lowestPlain : Int
  /-- The greatest such power. -/
  highestPlain : Int
  /-- What follows a whole number written without an exponent. -/
  wholeSuffix : String
  exponentMark : String
  notANumber : String
  infinity : String
  deriving DecidableEq, Repr

/-- Numbers from `1e-4` to below `1e16` are written plainly, with at least one decimal. -/
def Style.standard : Style :=
  ⟨-4, 15, ".0", "e", "NaN", "inf"⟩

def Style.magnitude (style : Style) (s : Scientific) : String :=
  let digits := Nat.toDigits 10 s.digits
  let count : Int := digits.length
  let leading := s.exponent + count - 1
  if style.lowestPlain ≤ leading ∧ leading ≤ style.highestPlain then
    if 0 ≤ s.exponent then
      .ofList (digits ++ List.replicate s.exponent.toNat '0') ++ style.wholeSuffix
    else if 0 ≤ leading then
      let whole := digits.take (leading + 1).toNat
      let rest := digits.drop (leading + 1).toNat
      .ofList (whole ++ ['.'] ++ rest)
    else
      .ofList (['0', '.'] ++ List.replicate (-leading - 1).toNat '0' ++ digits)
  else
    let rest := match digits.drop 1 with
      | [] => []
      | rest => '.' :: rest
    .ofList (digits.take 1 ++ rest) ++ style.exponentMark ++ toString leading

def Style.text (style : Style) (f : Binary.Format) (word : Nat) : String :=
  match f.decode word with
  | .nan _ => style.notANumber
  | .infinite negative => (if negative then "-" else "") ++ style.infinity
  | .finite negative mantissa exponent =>
    (if negative then "-" else "") ++
      if mantissa = 0 then "0" ++ style.wholeSuffix
      else style.magnitude (shortest f mantissa exponent)

end Strided.Decimal
