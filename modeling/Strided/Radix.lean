/-! Mixed-radix numerals with the least significant digit first.

A list of extents is a list of radices. `size` is the number of numerals, `weights` are the place
values, `digits` writes a number, `value` reads one, and `next?` counts. The first digit runs
fastest, so these are the positions of an array whose first dimension is contiguous.
-/

set_option autoImplicit false

namespace Strided.Radix

/-- How many numerals there are: the product of the radices. -/
def size : List Nat → Nat
  | [] => 1
  | e :: es => e * size es

theorem size_append (es fs : List Nat) : size (es ++ fs) = size es * size fs := by
  induction es with
  | nil => simp [size]
  | cons e es ih => simp [size, ih, Nat.mul_assoc]

/-- The place values: the weight of a digit is the product of the radices before it. -/
def weights : List Nat → List Nat
  | [] => []
  | e :: es => 1 :: (weights es).map (e * ·)

@[simp] theorem length_weights (es : List Nat) : (weights es).length = es.length := by
  induction es with
  | nil => rfl
  | cons e es ih => simp [weights, ih]

theorem getElem_weights (es : List Nat) (d : Nat) (h : d < (weights es).length) :
    (weights es)[d] = size (es.take d) := by
  induction es generalizing d with
  | nil => simp [weights] at h
  | cons e es ih =>
    cases d with
    | zero => rfl
    | succ d => simp [weights, size, ih]

/-- The digits of a number. What is left over beyond the last digit is dropped. -/
def digits : List Nat → Nat → List Nat
  | [], _ => []
  | e :: es, k => k % e :: digits es (k / e)

@[simp] theorem length_digits (es : List Nat) (k : Nat) : (digits es k).length = es.length := by
  induction es generalizing k with
  | nil => rfl
  | cons e es ih => simp [digits, ih]

/-- There is a digit for every radix, and each is below it. -/
def Within : List Nat → List Nat → Prop
  | [], [] => True
  | e :: es, i :: is => i < e ∧ Within es is
  | _, _ => False

theorem Within.length_eq {es is : List Nat} (within : Within es is) :
    is.length = es.length := by
  fun_induction Within es is with
  | case1 => rfl
  | case2 e es i is ih => exact congrArg (· + 1) (ih within.2)
  | case3 => exact within.elim

theorem within_iff {es is : List Nat} (h : is.length = es.length) :
    Within es is ↔ ∀ (d : Nat) (he : d < es.length), is[d] < es[d] := by
  induction es generalizing is with
  | nil => simp [List.length_eq_zero_iff.1 h, Within]
  | cons e es ih =>
    cases is with
    | nil => simp at h
    | cons i is =>
      rw [Within, ih (by simpa using h)]
      constructor
      · rintro ⟨h0, hs⟩ (_ | d) hd
        · exact h0
        · exact hs d (by simpa using hd)
      · exact fun hs => ⟨hs 0 (by simp), fun d hd => hs (d + 1) (by simpa using hd)⟩

theorem within_digits {es : List Nat} {k : Nat} (h : k < size es) : Within es (digits es k) := by
  induction es generalizing k with
  | nil => trivial
  | cons e es ih =>
    have he : 0 < e := Nat.pos_of_ne_zero fun he => by simp [size, he] at h
    exact ⟨Nat.mod_lt _ he, ih (Nat.div_lt_of_lt_mul (by simpa [size] using h))⟩

def value : List Nat → List Nat → Nat
  | e :: es, i :: is => i + e * value es is
  | _, _ => 0

theorem value_digits (es : List Nat) (k : Nat) (h : k < size es) : value es (digits es k) = k := by
  induction es generalizing k with
  | nil => simp [size] at h; simp [value, h]
  | cons e es ih =>
    have h' : k / e < size es := Nat.div_lt_of_lt_mul (by simpa [size] using h)
    simp [digits, value, ih _ h', Nat.mod_add_div]

theorem value_lt_size {es is : List Nat} (h : Within es is) : value es is < size es := by
  fun_induction Within es is with
  | case1 => simp [value, size]
  | case2 e es i is ih =>
    have step := Nat.mul_le_mul_left e (Nat.succ_le_of_lt (ih h.2))
    have := h.1
    simp only [value, size, Nat.mul_succ] at step ⊢
    omega
  | case3 => exact h.elim

theorem digits_value {es is : List Nat} (h : Within es is) : digits es (value es is) = is := by
  fun_induction Within es is with
  | case1 => rfl
  | case2 e es i is ih =>
    have he : 0 < e := by have := h.1; omega
    simp [value, digits, Nat.mod_eq_of_lt h.1, Nat.add_mul_div_left _ _ he, Nat.div_eq_of_lt h.1,
      ih h.2]
  | case3 => exact h.elim

/-- Count one up, carrying into the next digit; `none` when every digit wraps to zero. -/
def next? : List Nat → List Nat → Option (List Nat)
  | e :: es, i :: is =>
    if i + 1 < e then some ((i + 1) :: is) else (next? es is).map (0 :: ·)
  | _, _ => none

/-- Counting goes to the digits of the next number, as long as there is one. -/
theorem next?_eq {es is : List Nat} (h : Within es is) :
    next? es is =
      if value es is + 1 < size es then some (digits es (value es is + 1)) else none := by
  fun_induction Within es is with
  | case1 => rfl
  | case2 e es i is ih =>
    have hv := value_lt_size h.2
    have step := Nat.mul_le_mul_left e (Nat.succ_le_of_lt hv)
    by_cases hi : i + 1 < e
    · have hw : Within (e :: es) ((i + 1) :: is) := ⟨hi, h.2⟩
      have hd := digits_value hw
      have hlt := value_lt_size hw
      have hs : value (e :: es) (i :: is) + 1 = value (e :: es) ((i + 1) :: is) := by
        simp only [value]; omega
      rw [hs, hd, if_pos hlt, next?, if_pos hi]
    · have he : e = i + 1 := by have := h.1; omega
      have hs : value (e :: es) (i :: is) + 1 = e * (value es is + 1) := by
        simp only [value, Nat.mul_succ]; omega
      have hp : 0 < e := by omega
      rw [next?, if_neg hi, ih h.2, hs]
      simp only [size, Nat.mul_lt_mul_left hp]
      split <;> simp [digits, hp]
  | case3 => exact h.elim

theorem length_of_next? {es is js : List Nat} (h : next? es is = some js) :
    js.length = is.length := by
  fun_induction next? es is generalizing js with
  | case1 => cases h; simp
  | case2 e es i is _ ih =>
    obtain ⟨rest, hr, rfl⟩ := Option.map_eq_some_iff.1 h
    simp [ih hr]
  | case3 => simp at h

/-- A bound on the number of steps that `next?` can still take, for digits of any size. -/
def headroom : List Nat → List Nat → Nat
  | e :: es, i :: is => (e - i) + (e + 1) * headroom es is
  | _, _ => 0

theorem headroom_next? {es is js : List Nat} (h : next? es is = some js) :
    headroom es js < headroom es is := by
  fun_induction next? es is generalizing js with
  | case1 => cases h; simp only [headroom]; omega
  | case2 e es i is _ ih =>
    obtain ⟨rest, hr, rfl⟩ := Option.map_eq_some_iff.1 h
    have step := Nat.mul_le_mul_left (e + 1) (Nat.succ_le_of_lt (ih hr))
    simp only [headroom, Nat.mul_succ] at step ⊢
    omega
  | case3 => simp at h

end Strided.Radix
