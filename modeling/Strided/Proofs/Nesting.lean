import Strided.Proofs.Flattening

/-! What a nested literal stands for.

The lengths that a literal is held against are those of its first lists. They are the lengths of
all its lists exactly if the lists at each depth are equally long, and then the elements as they
are written are those of an array whose last dimension is the outermost list.
-/

set_option autoImplicit false

namespace Strided

variable {t : DType} {n : Nat}

namespace Radix

theorem size_reverse (es : List Nat) : size es.reverse = size es := by
  induction es with
  | nil => rfl
  | cons e es ih =>
    rw [List.reverse_cons, size_append, ih, size, size, size, Nat.mul_one, Nat.mul_comm]

theorem within_append_singleton {es is : List Nat} (same : is.length = es.length) {e i : Nat} :
    Within (es ++ [e]) (is ++ [i]) ↔ Within es is ∧ i < e := by
  induction es generalizing is with
  | nil =>
    obtain rfl := List.length_eq_zero_iff.1 same
    simp [Within]
  | cons f fs ih =>
    cases is with
    | nil => cases same
    | cons j js =>
      rw [List.cons_append, List.cons_append, Within, Within, ih (Nat.succ.inj same), and_assoc]

-- One more digit in the place after the last one.
theorem value_append_singleton {es is : List Nat} (same : is.length = es.length) (e i : Nat) :
    value (es ++ [e]) (is ++ [i]) = value es is + size es * i := by
  induction es generalizing is with
  | nil =>
    obtain rfl := List.length_eq_zero_iff.1 same
    simp [value, size]
  | cons f fs ih =>
    cases is with
    | nil => cases same
    | cons j js =>
      have rest := ih (Nat.succ.inj same)
      rw [List.cons_append, List.cons_append, value, rest, value, size, Nat.mul_add, Nat.mul_assoc,
        Nat.add_assoc]

end Radix

-- Equally long parts of a list are found by their numbers.
theorem getElem?_flatMap_of_length {α β : Type} {f : α → List β} {width : Nat} {l : List α}
    (each : ∀ a ∈ l, (f a).length = width) (k : Nat) {j : Nat} (below : j < width) :
    (l.flatMap f)[j + width * k]? = l[k]?.bind fun a => (f a)[j]? := by
  induction l generalizing k with
  | nil => simp
  | cons a l ih =>
    obtain ⟨first, rest⟩ := List.forall_mem_cons.1 each
    rw [List.flatMap_cons]
    cases k with
    | zero =>
      rw [Nat.mul_zero, Nat.add_zero, List.getElem?_append_left (first.symm ▸ below)]
      rfl
    | succ k =>
      have beyond : (f a).length ≤ j + width * (k + 1) := by
        rw [first, Nat.mul_succ]
        omega
      have left : j + width * (k + 1) - (f a).length = j + width * k := by
        rw [first, Nat.mul_succ]
        omega
      rw [List.getElem?_append_right beyond, left, ih rest k]
      rfl

namespace Nested

variable {α : Type}

def parts {depth : Nat} (x : Nested α (depth + 1)) : List (Nested α depth) :=
  x

/-- The lengths of all lists at a level, in the order in which they are written. The outermost list
is at level 0. -/
def lengthsAt : (level depth : Nat) → Nested α depth → List Nat
  | _, 0, _ => []
  | 0, _ + 1, x => [x.parts.length]
  | level + 1, depth + 1, x => x.parts.flatMap (lengthsAt level depth)

/-- All lists at the same level are equally long. -/
def Rectangular (depth : Nat) (x : Nested α depth) : Prop :=
  ∀ level, ∀ a ∈ lengthsAt level depth x, ∀ b ∈ lengthsAt level depth x, a = b

/-- The element at a path of positions, from the outside in. -/
def element? : (depth : Nat) → Nested α depth → List Nat → Option α
  | 0, x, [] => some x
  | depth + 1, x, k :: path => x.parts[k]?.bind (element? depth · path)
  | _, _, _ => none

/-- The lists at each level have the length that is given for it. -/
def Regular (es : List Nat) (depth : Nat) (x : Nested α depth) : Prop :=
  ∀ level, ∀ length ∈ lengthsAt level depth x, length = es.getD level 0

section
variable {level depth e : Nat} {es : List Nat} {x : Nested α (depth + 1)}

theorem lengthsAt_zero (level : Nat) (x : Nested α 0) : lengthsAt level 0 x = [] := by
  cases level <;> rfl

theorem regular_zero (es : List Nat) (x : Nested α 0) : Regular es 0 x := by
  intro level length member
  rw [lengthsAt_zero] at member
  cases member

theorem regular_succ : Regular (e :: es) (depth + 1) x ↔
    x.parts.length = e ∧ ∀ y ∈ x.parts, Regular es depth y := by
  constructor
  · intro regular
    refine ⟨regular 0 _ (List.mem_singleton.2 rfl), fun y member level length inside => ?_⟩
    exact regular (level + 1) length (List.mem_flatMap.2 ⟨y, member, inside⟩)
  · rintro ⟨outer, inner⟩ (_ | level) length inside
    · exact (List.mem_singleton.1 inside).trans outer
    · obtain ⟨y, member, inside⟩ := List.mem_flatMap.1 inside
      exact inner y member level length inside

theorem flatten_succ : x.flatten (depth + 1) = x.parts.flatMap (flatten depth) :=
  rfl

theorem lengths_succ : lengths (depth + 1) x = x.parts.length ::
    match x.parts with
    | [] => List.replicate depth 0
    | y :: _ => lengths depth y := by
  cases x <;> rfl

theorem checkLengths_succ : checkLengths level (depth + 1) (e :: es) x =
    if x.parts.length = e then x.parts.forM (checkLengths (level + 1) depth es)
    else .error (.refused (.raggedLiteral level e x.parts.length)) :=
  rfl

end

theorem checkLengths_eq_ok_iff {level depth : Nat} {es : List Nat} (same : es.length = depth)
    {x : Nested α depth} : checkLengths level depth es x = .ok () ↔ Regular es depth x := by
  induction depth generalizing level es with
  | zero => exact ⟨fun _ => regular_zero es x, fun _ => rfl⟩
  | succ depth ih =>
    cases es with
    | nil => cases same
    | cons e es =>
      rw [regular_succ, checkLengths_succ]
      split
      · rename_i outer
        rw [Outcome.forM_eq_ok_iff]
        exact ⟨fun each => ⟨outer, fun y member => (ih (Nat.succ.inj same)).1 (each y member)⟩,
          fun regular y member => (ih (Nat.succ.inj same)).2 (regular.2 y member)⟩
      · rename_i other
        exact ⟨nofun, fun regular => absurd regular.1 other⟩

-- The list at fault and the first one at its level belie each other. That there is a first one is
-- seen on the way down: the list of lists in which the fault lies has a first list, too.
theorem exists_ragged {level depth : Nat} {x y : Nested α depth} {fault : Error}
    (failed : checkLengths level depth (lengths depth x) y = .error fault) :
    ∃ k expected found, fault = .refused (.raggedLiteral (level + k) expected found) ∧
      (lengthsAt k depth x).head? = some expected ∧ found ∈ lengthsAt k depth y ∧
      found ≠ expected := by
  induction depth generalizing level with
  | zero => cases failed
  | succ depth ih =>
    rw [lengths_succ, checkLengths_succ] at failed
    split at failed
    · rename_i same
      obtain ⟨before, inner, after, parts, -, failed⟩ := Outcome.forM_eq_error_iff.1 failed
      have member : inner ∈ y.parts := parts ▸ List.mem_append_right before List.mem_cons_self
      cases firsts : x.parts with
      | nil =>
        rw [firsts] at same
        rw [List.eq_nil_of_length_eq_zero same] at member
        cases member
      | cons first rest =>
        rw [firsts] at failed
        obtain ⟨k, expected, found, rfl, head, inside, other⟩ := ih failed
        refine ⟨k + 1, expected, found, by rw [Nat.add_right_comm, Nat.add_assoc], ?_,
          List.mem_flatMap.2 ⟨inner, member, inside⟩, other⟩
        rw [lengthsAt, firsts, List.flatMap_cons, List.head?_append, head, Option.some_or]
    · rename_i other
      cases failed
      exact ⟨0, x.parts.length, y.parts.length, rfl, rfl, List.mem_singleton.2 rfl, other⟩

theorem checkLengths_lengths (level : Nat) {depth : Nat} {x : Nested α depth} :
    checkLengths level depth (lengths depth x) x = .ok () ↔ Rectangular depth x := by
  constructor
  · intro ok k a first b second
    have regular := (checkLengths_eq_ok_iff (length_lengths depth x)).1 ok
    rw [regular k a first, regular k b second]
  · intro rectangular
    cases outcome : checkLengths level depth (lengths depth x) x with
    | ok _ => rfl
    | error fault =>
      obtain ⟨k, expected, found, -, first, inside, other⟩ := exists_ragged outcome
      exact absurd (rectangular k found inside expected (List.mem_of_head? first)) other

-- Without lists at a level there is no length to be expected there.
theorem getD_lengths_eq_zero {level depth : Nat} {x : Nested α depth}
    (missing : lengthsAt level depth x = []) : (lengths depth x).getD level 0 = 0 := by
  induction depth generalizing level with
  | zero => rfl
  | succ depth ih =>
    cases level with
    | zero => cases missing
    | succ level =>
      rw [lengths_succ, List.getD_cons_succ]
      split
      · by_cases below : level < depth <;> simp [below]
      · rename_i first rest firsts
        rw [lengthsAt, firsts] at missing
        exact ih (List.flatMap_eq_nil_iff.1 missing first List.mem_cons_self)

theorem length_flatten {es : List Nat} {depth : Nat} (same : es.length = depth)
    {x : Nested α depth} (regular : Regular es depth x) :
    (x.flatten depth).length = Radix.size es := by
  induction depth generalizing es with
  | zero =>
    obtain rfl := List.length_eq_zero_iff.1 same
    rfl
  | succ depth ih =>
    cases es with
    | nil => cases same
    | cons e es =>
      obtain ⟨outer, inner⟩ := regular_succ.1 regular
      have each : ∀ y ∈ x.parts, (y.flatten depth).length = Radix.size es :=
        fun y member => ih (Nat.succ.inj same) (inner y member)
      rw [flatten_succ, List.length_flatMap, List.map_congr_left each, List.map_const',
        List.sum_replicate_nat, outer, Radix.size]

-- The last digit of the position is the component along the outermost list.
theorem getElem?_flatten {es path : List Nat} {depth : Nat} (same : es.length = depth)
    (long : path.length = es.length) {x : Nested α depth} (regular : Regular es depth x)
    (within : Radix.Within es.reverse path.reverse) :
    (x.flatten depth)[Radix.value es.reverse path.reverse]? = element? depth x path := by
  induction depth generalizing es path with
  | zero =>
    obtain rfl := List.length_eq_zero_iff.1 same
    obtain rfl := List.length_eq_zero_iff.1 long
    rfl
  | succ depth ih =>
    match es, path with
    | [], _ => cases same
    | _ :: _, [] => cases long
    | e :: es, k :: path =>
      replace same := Nat.succ.inj same
      replace long := Nat.succ.inj long
      have reversed : path.reverse.length = es.reverse.length := by simp [long]
      obtain ⟨outer, inner⟩ := regular_succ.1 regular
      rw [List.reverse_cons, List.reverse_cons, Radix.within_append_singleton reversed] at within
      have each : ∀ y ∈ x.parts, (y.flatten depth).length = Radix.size es.reverse :=
        fun y member => (length_flatten same (inner y member)).trans (Radix.size_reverse es).symm
      rw [List.reverse_cons, List.reverse_cons, Radix.value_append_singleton reversed, flatten_succ,
        getElem?_flatMap_of_length each k (Radix.value_lt_size within.1), element?]
      refine Option.bind_congr fun y found => ?_
      exact ih same long (inner y (List.mem_of_getElem? found)) within.1

theorem shape_eq_ok_iff {x : Nested α n} {s : Shape n} :
    x.shape n = .ok s ↔ Rectangular n x ∧ s.toList = (lengths n x).reverse := by
  obtain ⟨⟨extents, size⟩⟩ := s
  rw [shape, Outcome.bind_eq_ok_iff, ← checkLengths_lengths 0]
  constructor
  · rintro ⟨_, checked, same⟩
    cases same
    exact ⟨checked, rfl⟩
  · rintro ⟨checked, same⟩
    refine ⟨(), checked, ?_⟩
    obtain rfl : (lengths n x).reverse.toArray = extents := by
      rw [← same]
      rfl
    rfl

theorem exists_shape {x : Nested α n} (rectangular : Rectangular n x) :
    ∃ s, x.shape n = .ok s := by
  rw [shape, (checkLengths_lengths 0).2 rectangular]
  exact ⟨_, rfl⟩

theorem exists_ragged_of_shape {x : Nested α n} {fault : Error}
    (failed : x.shape n = .error fault) :
    ∃ level expected found, fault = .refused (.raggedLiteral level expected found) ∧
      (lengthsAt level n x).head? = some expected ∧ found ∈ lengthsAt level n x ∧
      found ≠ expected := by
  rw [shape, Outcome.bind_eq_error_iff] at failed
  rcases failed with unequal | ⟨_, _, impossible⟩
  · simpa using exists_ragged unequal
  · cases impossible

section
variable {x : Nested α n} {s : Shape n}

theorem extent_of_shape (ok : x.shape n = .ok s) (d : Fin n) :
    s.extent d = (lengths n x).getD d.rev 0 := by
  have below : d.val < (lengths n x).length := (length_lengths n x).symm ▸ d.isLt
  have extent : s.toList[d.val]? = some (s.extent d) := by
    simp [Shape.toList, Shape.extent]
  have mirrored : n - 1 - d.val = d.rev := by
    rw [Fin.val_rev]
    omega
  rw [(shape_eq_ok_iff.1 ok).2, List.getElem?_reverse below, length_lengths, mirrored] at extent
  rw [List.getD_eq_getElem?_getD, extent, Option.getD_some]

theorem regular_of_shape (ok : x.shape n = .ok s) : Regular (lengths n x) n x :=
  (checkLengths_eq_ok_iff (length_lengths n x)).1
    ((checkLengths_lengths 0).2 (shape_eq_ok_iff.1 ok).1)

theorem length_flatten_of_shape (ok : x.shape n = .ok s) : (x.flatten n).length = s.size := by
  rw [length_flatten (length_lengths n x) (regular_of_shape ok), Shape.size,
    (shape_eq_ok_iff.1 ok).2, Radix.size_reverse]

theorem exists_element (ok : x.shape n = .ok s) {i : Index n} (inside : s.Contains i) :
    ∃ v, x.element? n i.toList.reverse = some v ∧ (x.flatten n)[s.position i]? = some v := by
  have below : s.position i < (x.flatten n).length :=
    length_flatten_of_shape ok ▸ Shape.position_lt_size inside
  have long : i.toList.reverse.length = (lengths n x).length := by simp [length_lengths]
  have same : (lengths n x).reverse = s.toList := (shape_eq_ok_iff.1 ok).2.symm
  have within : Radix.Within (lengths n x).reverse i.toList.reverse.reverse := by
    rw [same, List.reverse_reverse]
    exact Shape.contains_iff_within.1 inside
  have place := getElem?_flatten (length_lengths n x) long (regular_of_shape ok) within
  rw [same, List.reverse_reverse] at place
  have found := List.getElem?_eq_getElem below
  exact ⟨_, place.symm.trans found, found⟩

end

end Nested

namespace Tensor

theorem exists_ofNested (space : Space) {x : Nested t.Elem n} {s : Shape n}
    (ok : x.shape n = .ok s) (m : Memory) :
    ∃ y m', ofNested space x m = .ok (y, m') ∧ y.space = space ∧ y.Holds m' ∧ y.shape = s ∧
      ∀ i, s.Contains i →
        ∃ v, x.element? n i.toList.reverse = some v ∧ m'.read? t (y.span.cell i) = some v := by
  obtain ⟨y, m', made, -, holds, home, shape, entries⟩ :=
    exists_ofList space (Nested.length_flatten_of_shape ok) m
  refine ⟨y, m', ?_, home, holds, shape, fun i inside => ?_⟩
  · rw [ofNested, ok]
    exact made
  · obtain ⟨v, element, entry⟩ := Nested.exists_element ok inside
    exact ⟨v, element, (entries i inside).trans entry⟩

/-- A literal is taken exactly if it is rectangular, and refused with the level and the length of a
list that differs from the first one at its level. The innermost length is the first extent, and an
element is found under its index, read from the outside in. -/
theorem ofNested_exact (space : Space) (x : Nested t.Elem n) (m : Memory) :
    ((∃ r, ofNested space x m = .ok r) ↔ x.Rectangular n) ∧
      (∀ fault, ofNested space x m = .error fault →
        ∃ level expected found, fault = .refused (.raggedLiteral level expected found) ∧
          (x.lengthsAt level n).head? = some expected ∧ found ∈ x.lengthsAt level n ∧
          found ≠ expected) ∧
      ∀ y m', ofNested space x m = .ok (y, m') →
        y.space = space ∧ y.Holds m' ∧
        (∀ d : Fin n, (∀ length ∈ x.lengthsAt d.rev n, y.shape.extent d = length) ∧
          (x.lengthsAt d.rev n = [] → y.shape.extent d = 0)) ∧
        (x.flatten n).length = y.size ∧
        ∀ i, y.shape.Contains i →
          ∃ v, x.element? n i.toList.reverse = some v ∧ m'.read? t (y.span.cell i) = some v := by
  cases outcome : x.shape n with
  | error fault =>
    have failed : ofNested space x m = .error fault := by
      rw [ofNested, outcome]
      rfl
    refine ⟨⟨?_, fun rectangular => ?_⟩, fun other failed' => ?_, fun y m' ok => ?_⟩
    · rintro ⟨r, ok⟩
      cases failed.symm.trans ok
    · obtain ⟨s, ok⟩ := Nested.exists_shape rectangular
      cases outcome.symm.trans ok
    · cases failed.symm.trans failed'
      exact Nested.exists_ragged_of_shape outcome
    · cases failed.symm.trans ok
  | ok s =>
    obtain ⟨y, m', ok, home, holds, rfl, elements⟩ := exists_ofNested space outcome m
    refine ⟨⟨fun _ => (Nested.shape_eq_ok_iff.1 outcome).1, fun _ => ⟨_, ok⟩⟩,
      fun fault failed => ?_, fun z m'' ok' => ?_⟩
    · cases ok.symm.trans failed
    · cases ok.symm.trans ok'
      refine ⟨home, holds, fun d => ?_, Nested.length_flatten_of_shape outcome, elements⟩
      have extent := Nested.extent_of_shape outcome d
      refine ⟨fun length member => ?_, fun missing => ?_⟩
      · exact extent.trans (Nested.regular_of_shape outcome d.rev length member).symm
      · exact extent.trans (Nested.getD_lengths_eq_zero missing)

end Tensor

end Strided
