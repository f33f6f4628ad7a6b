/-! Calculations with words, one operation at a time.

Each operation of a calculation has an exact result, and the calculation goes on with the number
that stands for it. Where numbers have no bound that is the result itself. Where they are words of
64 bits, a result that is no word either ends the calculation or wraps around. A cast to signed
words never ends one.
-/

set_option autoImplicit false

namespace Strided

/-- The number fits a signed word of 64 bits. -/
def IsWord (v : Int) : Prop :=
  -9223372036854775808 ≤ v ∧ v < 9223372036854775808

instance (v : Int) : Decidable (IsWord v) :=
  inferInstanceAs (Decidable (_ ∧ _))

def wrapWord (v : Int) : Int :=
  (v + 9223372036854775808) % 18446744073709551616 - 9223372036854775808

/-- The number that a word stands for when it is read without a sign. -/
def unsignedWord (v : Int) : Nat :=
  (if v < 0 then v + 18446744073709551616 else v).toNat

variable {α β : Type}

inductive Calculation (α : Type) where
  | done (result : α)
  /-- An operation has no result, as a division by 0. -/
  | halt
  /-- The exact result of an operation, and how to go on with what stands for it. -/
  | after (number : Int) (rest : Int → Calculation α)
  /-- A number that is read as a signed word. -/
  | recast (number : Int) (rest : Int → Calculation α)

namespace Calculation

def bind : Calculation α → (α → Calculation β) → Calculation β
  | done a, next => next a
  | halt, _ => halt
  | after v rest, next => after v fun w => (rest w).bind next
  | recast v rest, next => recast v fun w => (rest w).bind next

instance : Monad Calculation where
  pure := done
  bind := bind

def compute (v : Int) : Calculation Int :=
  after v done

/-- The result of an operation on words without a sign: its distance from the middle of their range
is a signed word. -/
def computeUnsigned (v : Int) : Calculation Int :=
  after (v - 9223372036854775808) fun w => done (w + 9223372036854775808)

def cast (v : Int) : Calculation Int :=
  recast v done

def require (condition : Prop) [Decidable condition] : Calculation Unit :=
  if condition then done () else halt

def ofOption : Option α → Calculation α
  | some a => done a
  | none => halt

/-- Go on from each result with what `read` makes of it, and from each cast with `word`. -/
def run (read : Int → Option Int) (word : Int → Int) : Calculation α → Option α
  | done a => some a
  | halt => none
  | after v rest => (read v).bind fun w => (rest w).run read word
  | recast v rest => (rest (word v)).run read word

def unbounded : Calculation α → Option α :=
  run some id

/-- A result that is no word ends the calculation. -/
def checked : Calculation α → Option α :=
  run (fun v => if IsWord v then some v else none) wrapWord

/-- A result that is no word wraps around. -/
def wrapping : Calculation α → Option α :=
  run (fun v => some (wrapWord v)) wrapWord

/-- The exact results of the operations and casts, where numbers have no bound. -/
def numbers : Calculation α → List Int
  | done _ | halt => []
  | after v rest | recast v rest => v :: (rest v).numbers

end Calculation

end Strided
