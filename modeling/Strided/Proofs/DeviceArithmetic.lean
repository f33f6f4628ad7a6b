import Mathlib.Data.Int.ModEq
import Strided.Device.Evaluation

/-! Whole numbers on the device and on the host.

The host wraps every result in the type of its operands. On the device an operation is carried out
in a type that may be wider, and a cast brings the result back. Sums, differences, products and
negations may be brought back late: a number that differs from the right one by a multiple of the
modulus gives a result that does so too. A quotient needs the right numbers.
-/

set_option autoImplicit false

namespace Strided

variable {t : DType}

namespace CInteger

theorem wrap_modEq (c : CInteger) (x : Int) : c.wrap x ≡ x [ZMOD c.modulus] := by
  unfold wrap Int.ModEq
  split
  · exact Int.bmod_emod
  · exact Int.emod_emod x c.modulus

theorem wrap_eq_wrap {c : CInteger} {x y : Int} (h : x ≡ y [ZMOD c.modulus]) :
    c.wrap x = c.wrap y := by
  unfold wrap
  split
  · rw [← Int.emod_bmod, h.eq, Int.emod_bmod]
  · exact h

theorem modulus_dvd_promote (c : CInteger) : (c.modulus : Int) ∣ c.promote.modulus := by
  cases c <;> decide

theorem modulus_dvd_longLong (c : CInteger) : (c.modulus : Int) ∣ longLong.modulus := by
  cases c <;> decide

/-- Nothing is lost in a type with as many numbers, or with a multiple. -/
theorem wrap_wrap {c d : CInteger} (covers : (c.modulus : Int) ∣ d.modulus) (x : Int) :
    c.wrap (d.wrap x) = c.wrap x :=
  wrap_eq_wrap ((d.wrap_modEq x).of_dvd covers)

theorem promote_promote (c : CInteger) : c.promote.promote = c.promote := by
  cases c <;> rfl

theorem meet_of_promote_eq {a b : CInteger} (same : a.promote = b.promote) :
    a.meet b = b.promote := by
  simp [meet, same]

@[simp] theorem wrap_zero (c : CInteger) : c.wrap 0 = 0 := by
  cases c <;> rfl

theorem promote_of_ne {c : CInteger} (wide : c ≠ uint8) : c.promote = c := by
  cases c <;> first | rfl | exact absurd rfl wide

theorem meet_int (c : CInteger) : c.meet int = c.promote := by
  cases c <;> rfl

/-- A number of a type is one of the type in which it is computed. -/
theorem promote_wrap_of_wrap {c : CInteger} {x : Int} (h : c.wrap x = x) :
    c.promote.wrap x = x := by
  cases c with
  | uint8 =>
    simp only [wrap, isSigned, modulus, promote, Bool.false_eq_true, ↓reduceIte] at h ⊢
    rw [Int.bmod_eq_of_le] <;> omega
  | _ => exact h

end CInteger

theorem DType.exists_integer (t : DType) (integral : t.isIntegral) :
    ∃ c, t.integer? = some c := by
  cases t <;> first | exact ⟨_, rfl⟩ | cases integral

theorem eq_u8_of_integer? (h : t.integer? = some .uint8) : t = .u8 := by
  cases t <;> first | rfl | cases h

def BinaryOp.exact : BinaryOp → Int → Int → Int
  | add => (· + ·)
  | sub => (· - ·)
  | mul => (· * ·)
  | div => .tdiv

section
variable {c : CInteger} (counterpart : t.integer? = some c)
include counterpart

theorem wrap_number (x : t.Elem) : c.wrap (t.number x) = t.number x := by
  cases t <;> cases counterpart
  · exact Int.emod_eq_of_lt (Int.natCast_nonneg _) (Int.ofNat_lt.2 (UInt8.toNat_lt x))
  · exact Int.emod_eq_of_lt (Int.natCast_nonneg _) (Int.ofNat_lt.2 (UInt32.toNat_lt x))
  · exact Int32.toInt_bmod x
  · exact Int64.toInt_bmod x

variable [Numerics]

theorem number_castElem {s : DType} (integral : s.isIntegral) (x : s.Elem) :
    t.number (castElem s t x) = c.wrap (s.number x) := by
  have whole : ∃ im, castElem s t x = t.ofParts (.whole (s.number x), im) := by
    cases s <;> first | exact ⟨_, rfl⟩ | cases integral
  obtain ⟨im, converted⟩ := whole
  rw [converted]
  generalize s.number x = k
  cases t <;> cases counterpart
  · change (((UInt8.ofInt k).toNat : Nat) : Int) = k % 256
    simp only [UInt8.ofInt, UInt8.toNat_ofNat']
    omega
  · change (((UInt32.ofInt k).toNat : Nat) : Int) = k % 4294967296
    simp only [UInt32.ofInt, UInt32.toNat_ofNat']
    omega
  · exact Int32.toInt_ofInt
  · exact Int64.toInt_ofInt

theorem wrap_kernelWords (x : t.Elem) :
    c.wrap (CInteger.longLong.wrap (kernelWords t x).1.toNat) = t.number x := by
  have words : (kernelWords t x).1 = .ofInt (t.number x) := by
    cases t <;> cases counterpart <;> rfl
  have whole : ((UInt64.ofInt (t.number x)).toNat : Int) = CInteger.sizeT.wrap (t.number x) := by
    change _ = t.number x % 18446744073709551616
    simp only [UInt64.ofInt, UInt64.toNat_ofNat']
    omega
  have sizes : (c.modulus : Int) ∣ CInteger.sizeT.modulus := c.modulus_dvd_longLong
  rw [words, CInteger.wrap_wrap c.modulus_dvd_longLong, whole, CInteger.wrap_wrap sizes,
    wrap_number counterpart]

theorem number_neg (x : t.Elem) :
    t.number (UnaryOp.neg.apply x) = c.wrap (-t.number x) := by
  cases t <;> cases counterpart
  · change (((-x : UInt8).toNat : Nat) : Int) = -(x.toNat : Int) % 256
    have bound := UInt8.toNat_lt x
    rw [UInt8.toNat_neg, UInt8.size]
    omega
  · change (((-x : UInt32).toNat : Nat) : Int) = -(x.toNat : Int) % 4294967296
    have bound := UInt32.toNat_lt x
    rw [UInt32.toNat_neg, UInt32.size]
    omega
  · exact Int32.toInt_neg x
  · exact Int64.toInt_neg x

theorem number_apply (op : BinaryOp) (x y : t.Elem) :
    t.number (op.apply x y) = c.wrap (op.exact (t.number x) (t.number y)) := by
  cases t <;> cases counterpart
  · cases op with
    | add =>
      change (((x + y : UInt8).toNat : Nat) : Int) = ((x.toNat : Int) + y.toNat) % 256
      rw [UInt8.toNat_add, Int.natCast_mod, Int.natCast_add]
      rfl
    | sub =>
      change (((x - y : UInt8).toNat : Nat) : Int) = ((x.toNat : Int) - y.toNat) % 256
      have bound := UInt8.toNat_lt y
      rw [UInt8.toNat_sub]
      omega
    | mul =>
      change (((x * y : UInt8).toNat : Nat) : Int) = ((x.toNat : Int) * y.toNat) % 256
      rw [UInt8.toNat_mul, Int.natCast_mod, Int.natCast_mul]
      rfl
    | div =>
      change (((x / y : UInt8).toNat : Nat) : Int) = (x.toNat : Int).tdiv y.toNat % 256
      have bound := UInt8.toNat_lt (x / y)
      rw [← Int.ofNat_tdiv, ← UInt8.toNat_div]
      omega
  · cases op with
    | add =>
      change (((x + y : UInt32).toNat : Nat) : Int) = ((x.toNat : Int) + y.toNat) % 4294967296
      rw [UInt32.toNat_add, Int.natCast_mod, Int.natCast_add]
      rfl
    | sub =>
      change (((x - y : UInt32).toNat : Nat) : Int) = ((x.toNat : Int) - y.toNat) % 4294967296
      have bound := UInt32.toNat_lt y
      rw [UInt32.toNat_sub]
      omega
    | mul =>
      change (((x * y : UInt32).toNat : Nat) : Int) = ((x.toNat : Int) * y.toNat) % 4294967296
      rw [UInt32.toNat_mul, Int.natCast_mod, Int.natCast_mul]
      rfl
    | div =>
      change (((x / y : UInt32).toNat : Nat) : Int) = (x.toNat : Int).tdiv y.toNat % 4294967296
      have bound := UInt32.toNat_lt (x / y)
      rw [← Int.ofNat_tdiv, ← UInt32.toNat_div]
      omega
  · cases op with
    | add => exact Int32.toInt_add x y
    | sub => exact Int32.toInt_sub x y
    | mul => exact Int32.toInt_mul x y
    | div => exact Int32.toInt_div x y
  · cases op with
    | add => exact Int64.toInt_add x y
    | sub => exact Int64.toInt_sub x y
    | mul => exact Int64.toInt_mul x y
    | div => exact Int64.toInt_div x y

end

namespace CNumber

/-- A number that is computed as those of a type are, and that is `k` once it is brought back to
the type. -/
structure Denotes (c : CInteger) (k : Int) (x : CNumber) : Prop where
  type : x.type.promote = c.promote
  value : ∃ a, x.value = some a ∧ c.wrap a = k

theorem binary_operator {p : CInteger} (op : BinaryOp) {x y : CNumber} {a b : Int}
    (left : x.value = some a) (right : y.value = some b) (typeLeft : x.type.promote = p)
    (typeRight : y.type.promote = p) (defined : op = .div → p.wrap b ≠ 0) :
    binary op.operator x y = ⟨p, some (p.wrap (op.exact (p.wrap a) (p.wrap b)))⟩ := by
  have meet : x.type.meet y.type = p := by
    rw [CInteger.meet_of_promote_eq (typeLeft.trans typeRight.symm), typeRight]
  cases op <;> simp_all [BinaryOp.operator, BinaryOp.exact, binary, combine]

theorem convert_operator {c : CInteger} {op : BinaryOp} (total : op ≠ .div) {x y : CNumber}
    {a b : Int} (left : Denotes c a x) (right : Denotes c b y) :
    convert c (binary op.operator x y) = ⟨c, some (c.wrap (op.exact a b))⟩ := by
  obtain ⟨typeLeft, a', left, rfl⟩ := left
  obtain ⟨typeRight, b', right, rfl⟩ := right
  rw [binary_operator op left right typeLeft typeRight fun divides => absurd divides total]
  have first := (c.promote.wrap_modEq a').of_dvd c.modulus_dvd_promote
  have second := (c.promote.wrap_modEq b').of_dvd c.modulus_dvd_promote
  have first := first.trans (c.wrap_modEq a').symm
  have second := second.trans (c.wrap_modEq b').symm
  have same : op.exact (c.promote.wrap a') (c.promote.wrap b') ≡
      op.exact (c.wrap a') (c.wrap b') [ZMOD c.modulus] := by
    cases op with
    | add => exact first.add second
    | sub => exact first.sub second
    | mul => exact first.mul second
    | div => exact absurd rfl total
  simp only [convert, Option.map_some, CInteger.wrap_wrap c.modulus_dvd_promote,
    CInteger.wrap_eq_wrap same]

theorem select_division {c : CInteger} {x y : CNumber} {a b : Int} (left : x.value = some a)
    (right : y.value = some b) (typeLeft : x.type.promote = c.promote)
    (typeRight : y.type.promote = c.promote) (first : c.wrap a = a) (second : c.wrap b = b) :
    select (binary .equal y ⟨.int, some 0⟩) (convert c ⟨.int, some 0⟩)
      (convert c (binary .div x y)) = ⟨c.promote, some (c.wrap (a.tdiv b))⟩ := by
  have first := CInteger.promote_wrap_of_wrap first
  have second := CInteger.promote_wrap_of_wrap second
  have kept (k : Int) : c.promote.wrap (c.wrap k) = c.wrap k :=
    CInteger.promote_wrap_of_wrap (CInteger.wrap_wrap (dvd_refl _) k)
  have test : binary .equal y ⟨.int, some 0⟩ = ⟨.int, some (b = 0 : Bool).toInt⟩ := by
    simp [binary, compare, combine, right, CInteger.meet_int, typeRight, second]
  have join : c.meet c = c.promote := CInteger.meet_of_promote_eq rfl
  by_cases divisor : b = 0
  · simp [select, join, test, convert, divisor]
  · have quotient := binary_operator .div left right typeLeft typeRight
      fun _ => second.symm ▸ divisor
    simp only [BinaryOp.operator, BinaryOp.exact, first, second] at quotient
    simp [select, join, test, convert, divisor, quotient, kept,
      CInteger.wrap_wrap c.modulus_dvd_promote]

theorem Denotes.negate {c : CInteger} {k : Int} {x : CNumber} (h : Denotes c k x) :
    Denotes c (c.wrap (-k)) x.negate := by
  obtain ⟨type, a, value, rfl⟩ := h
  refine ⟨by rw [CNumber.negate, CInteger.promote_promote, type], c.promote.wrap (-a), ?_, ?_⟩
  · rw [CNumber.negate, value, type, Option.map_some]
  · rw [CInteger.wrap_wrap c.modulus_dvd_promote]
    exact CInteger.wrap_eq_wrap (c.wrap_modEq a).symm.neg

theorem Denotes.value_negate {c : CInteger} {k : Int} {x : CNumber} (h : Denotes c k x)
    (wide : c.promote = c) : x.negate.value = some (c.wrap (-k)) := by
  obtain ⟨type, a, value, rfl⟩ := h
  rw [CNumber.negate, value, type, wide, Option.map_some,
    CInteger.wrap_eq_wrap (c.wrap_modEq a).symm.neg]

end CNumber

end Strided
