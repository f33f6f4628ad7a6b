import Mathlib.Data.List.Nodup
import Strided.Proofs.Planning

/-! Every plan visits each index of its shape once.

A plan deals the indices of its shape out to the lanes of its blocks, and `Dealt` says so by
naming the lane of every index. For tiles that lane is found by division with remainder along each
axis of the grid, for a walk along a line by the position in column-major order. The walk itself
has loops and divisions, and `LaneWalk` follows them one step at a time.
-/

set_option autoImplicit false

namespace Strided

theorem mapM_eq_some_map {α β : Type} {f : α → Option β} {g : α → β} {l : List α}
    (defined : ∀ a ∈ l, f a = some (g a)) : l.mapM f = some (l.map g) := by
  induction l with
  | nil => rfl
  | cons a l ih =>
    obtain ⟨first, rest⟩ := List.forall_mem_cons.1 defined
    simp [List.mapM_cons, first, ih rest]

theorem nodup_flatMap_of_owner {α β : Type} {l : List α} {f : α → List β} (owner : β → α)
    (distinct : l.Nodup) (each : ∀ a ∈ l, (f a).Nodup)
    (owned : ∀ a ∈ l, ∀ b ∈ f a, owner b = a) : (l.flatMap f).Nodup := by
  rw [List.nodup_flatMap]
  refine ⟨each, List.Pairwise.imp_of_mem ?_ distinct⟩
  intro a a' member member' different b inFirst inSecond
  exact different ((owned a member b inFirst).symm.trans (owned a' member' b inSecond))

namespace Radix

theorem value_eq_iff {es is : List Nat} {k : Nat} (within : Within es is) (bound : k < size es) :
    value es is = k ↔ is = digits es k := by
  constructor
  · rintro rfl
    exact (digits_value within).symm
  · rintro rfl
    exact value_digits es k bound

theorem within_digits_of_ne_zero {es : List Nat} {k : Nat} (filled : size es ≠ 0) :
    Within es (digits es k) := by
  induction es generalizing k with
  | nil => trivial
  | cons e es ih =>
    have positive : 0 < e := Nat.pos_of_ne_zero fun zero => filled (by simp [size, zero])
    have rest : size es ≠ 0 := fun zero => filled (by simp [size, zero])
    exact ⟨Nat.mod_lt k positive, ih rest⟩

/-- The digits of a number by division with remainder, which a radix of 0 refuses. -/
def digits? : List Nat → Nat → Option (List Nat)
  | [], _ => some []
  | e :: es, k => if e = 0 then none else (digits? es (k / e)).map (k % e :: ·)

theorem digits?_eq {es : List Nat} (filled : size es ≠ 0) (k : Nat) :
    digits? es k = some (digits es k) := by
  induction es generalizing k with
  | nil => rfl
  | cons e es ih =>
    have nonzero : e ≠ 0 := fun zero => filled (by simp [size, zero])
    have rest : size es ≠ 0 := fun zero => filled (by simp [size, zero])
    rw [digits?, if_neg nonzero, ih rest]
    rfl

end Radix

namespace LaunchPlan

variable {n : Nat}

theorem pieces_eq_succ {length size : Nat} (positive : 0 < size) (remains : 0 < length) :
    pieces length size = pieces (length - size) size + 1 := by
  have shifted : length + size - 1 = length - 1 + size := by omega
  rw [pieces, pieces, shifted, Nat.add_div_right _ positive]
  congr 1
  by_cases enough : size ≤ length
  · congr 1
    omega
  · rw [Nat.div_eq_of_lt (by omega), Nat.div_eq_of_lt (by omega)]

theorem mem_stridesBelow {limit first stride g : Nat} (positive : 0 < stride) :
    g ∈ stridesBelow limit first stride ↔ g < limit ∧ ∃ k, g = first + k * stride := by
  simp only [stridesBelow, List.mem_map, List.mem_range]
  have bound (k : Nat) :
      k < (limit - first + stride - 1) / stride ↔ first + k * stride < limit := by
    rw [← pieces, lt_pieces_iff positive]
    omega
  constructor
  · rintro ⟨k, below, rfl⟩
    exact ⟨(bound k).1 below, k, rfl⟩
  · rintro ⟨below, k, rfl⟩
    exact ⟨k, (bound k).2 below, rfl⟩

theorem nodup_stridesBelow {limit first stride : Nat} (positive : 0 < stride) :
    (stridesBelow limit first stride).Nodup := by
  refine List.Nodup.map ?_ List.nodup_range
  intro k k' same
  exact Nat.eq_of_mul_eq_mul_right positive (Nat.add_left_cancel same)

/-- What a loop visits that goes a stride at a time until it is past the limit. A loop that does
not end has no run. -/
inductive StrideLoop (limit stride : Nat) : Nat → List Nat → Prop where
  | stop {g : Nat} (past : limit ≤ g) : StrideLoop limit stride g []
  | visit {g : Nat} {gs : List Nat} (before : g < limit)
    (rest : StrideLoop limit stride (g + stride) gs) : StrideLoop limit stride g (g :: gs)

theorem stridesBelow_of_le {limit first stride : Nat} (positive : 0 < stride)
    (past : limit ≤ first) : stridesBelow limit first stride = [] := by
  rw [List.eq_nil_iff_forall_not_mem]
  intro g member
  obtain ⟨below, k, rfl⟩ := (mem_stridesBelow positive).1 member
  omega

theorem stridesBelow_of_lt {limit first stride : Nat} (positive : 0 < stride)
    (before : first < limit) :
    stridesBelow limit first stride = first :: stridesBelow limit (first + stride) stride := by
  have count := pieces_eq_succ positive (Nat.sub_pos_of_lt before)
  rw [Nat.sub_sub] at count
  rw [stridesBelow, ← pieces, count, List.range_succ_eq_map, List.map_cons, List.map_map,
    Nat.zero_mul, Nat.add_zero, stridesBelow, ← pieces]
  congr 1
  apply List.map_congr_left
  intro k _
  simp only [Function.comp_apply, Nat.succ_mul]
  omega

theorem strideLoop_stridesBelow {limit stride : Nat} (positive : 0 < stride) (first : Nat) :
    StrideLoop limit stride first (stridesBelow limit first stride) := by
  -- Each round leaves less to go.
  induction left : limit - first using Nat.strongRecOn generalizing first with
  | ind left ih =>
    by_cases before : first < limit
    · rw [stridesBelow_of_lt positive before]
      exact .visit before (ih (limit - (first + stride)) (by omega) _ rfl)
    · rw [stridesBelow_of_le positive (by omega)]
      exact .stop (by omega)

/-- What the statements of one lane visit, with the bounds checks, the unpacking and the loop that
they go through. A loop that does not end has no walk, and neither has a division by 0. -/
inductive LaneWalk (p : LaunchPlan n) (b : Dim3) (tx ty : Nat) : List (Index n) → Prop where
  | line {gs : List Nat} {is : List (Index n)} (line : p.strategy = .linear)
    (loop : StrideLoop p.shape.size (p.grid.x.toNat * p.block.x.toNat)
      (b.x.toNat * p.block.x.toNat + tx) gs)
    (unpacked : ∀ g ∈ gs, (Radix.digits? p.shape.toList g).isSome)
    (indices : is = gs.map p.shape.unravel) : LaneWalk p b tx ty is
  | beyond (tiled : p.strategy ≠ .linear)
    (outside : ¬ Radix.Within (p.shape.toList.take 2)
      ([b.x.toNat * p.block.x.toNat + tx, b.y.toNat * p.block.y.toNat + ty].take n)) :
    LaneWalk p b tx ty []
  | tile {i : Index n} {rest : List Nat} (tiled : p.strategy ≠ .linear)
    (inside : Radix.Within (p.shape.toList.take 2)
      ([b.x.toNat * p.block.x.toNat + tx, b.y.toNat * p.block.y.toNat + ty].take n))
    (unpacked : Radix.digits? (p.shape.toList.drop 2) b.z.toNat = some rest)
    (index : i.toList =
      [b.x.toNat * p.block.x.toNat + tx, b.y.toNat * p.block.y.toNat + ty].take n ++ rest) :
    LaneWalk p b tx ty [i]

theorem within_tileDigits {i j z : Nat} {es : List Nat} (filled : Radix.size es ≠ 0) :
    Radix.Within es (tileDigits i j z es) ↔ Radix.Within (es.take 2) ([i, j].take es.length) := by
  match es with
  | [] => simp [tileDigits, Radix.Within]
  | [e] => simp [tileDigits, Radix.Within]
  | e₀ :: e₁ :: outer =>
    have rest : Radix.size outer ≠ 0 := fun zero => filled (by simp [Radix.size, zero])
    simp [tileDigits, Radix.Within, Radix.within_digits_of_ne_zero rest]

theorem tileDigits_eq_append (i j z : Nat) (es : List Nat) :
    tileDigits i j z es = [i, j].take es.length ++ Radix.digits (es.drop 2) z := by
  match es with
  | [] => rfl
  | [e] => rfl
  | e₀ :: e₁ :: outer => simp [tileDigits]

theorem size_drop_ne_zero {es : List Nat} (filled : Radix.size es ≠ 0) (k : Nat) :
    Radix.size (es.drop k) ≠ 0 := by
  induction es generalizing k with
  | nil => simpa using filled
  | cons e es ih =>
    cases k with
    | zero => exact filled
    | succ k =>
      have rest : Radix.size es ≠ 0 := fun zero => filled (by simp [Radix.size, zero])
      exact ih rest k

def blockAt (p : LaunchPlan n) (k : Nat) : Dim3 :=
  .ofNats (k % p.grid.x.toNat) (k / p.grid.x.toNat % p.grid.y.toNat)
    (k / (p.grid.x.toNat * p.grid.y.toNat))

theorem toNat_ofNat_of_le {k bound : Nat} (below : k ≤ bound) (word : bound < UInt32.size) :
    (UInt32.ofNat k).toNat = k :=
  UInt32.toNat_ofNat_of_lt' (Nat.lt_of_le_of_lt below word)

theorem blockCount_eq_size (p : LaunchPlan n) : p.blockCount = Radix.size p.grid.toList := by
  simp [blockCount, Dim3.volume, Dim3.toList, Radix.size, Nat.mul_assoc]

-- The first two axes of a grid that has blocks are not empty, so its blocks have positions.
theorem blockCoords?_eq {p : LaunchPlan n} {k : Nat} (bound : k < p.blockCount) :
    p.blockCoords? k = some (p.blockAt k) := by
  have nonempty : ¬ (p.grid.x.toNat = 0 ∨ p.grid.y.toNat = 0) := by
    rintro (zero | zero) <;> simp [blockCount, Dim3.volume, zero] at bound
  exact if_neg nonempty

-- The position of a block is the number of the block written in the extents of the grid.
theorem toList_blockAt {p : LaunchPlan n} {k : Nat} (bound : k < p.blockCount) :
    (p.blockAt k).toList = Radix.digits p.grid.toList k := by
  have within := Radix.within_digits (blockCount_eq_size p ▸ bound)
  simp only [Dim3.toList, Radix.digits, Radix.Within, and_true] at within ⊢
  obtain ⟨first, second, third⟩ := within
  have last : k / (p.grid.x.toNat * p.grid.y.toNat) < p.grid.z.toNat := by
    apply Nat.div_lt_of_lt_mul
    simpa [blockCount, Dim3.volume] using bound
  rw [Nat.div_div_eq_div_mul, Nat.mod_eq_of_lt last]
  simp only [blockAt, Dim3.ofNats,
    toNat_ofNat_of_le (Nat.le_of_lt first) p.grid.x.toNat_lt,
    toNat_ofNat_of_le (Nat.le_of_lt second) p.grid.y.toNat_lt,
    toNat_ofNat_of_le (Nat.le_of_lt last) p.grid.z.toNat_lt]

theorem cover?_eq (p : LaunchPlan n) :
    p.cover? = some ((List.range p.blockCount).map fun k => p.blockIndices (p.blockAt k)) := by
  apply mapM_eq_some_map
  intro k bound
  rw [blockCoords?_eq (List.mem_range.1 bound)]
  rfl

/-- A lane of a grid: the number of its block, and where it lies in the block. -/
structure Lane where
  block : Nat
  x : Nat
  y : Nat

/-- Each index of the shape belongs to one lane of the grid, which visits it once. -/
structure Dealt (p : LaunchPlan n) (home : Index n → Lane) : Prop where
  lane : ∀ i, p.shape.Contains i →
    (home i).block < p.blockCount ∧ (home i).x < p.block.x.toNat ∧ (home i).y < p.block.y.toNat
  mem_iff : ∀ k < p.blockCount, ∀ tx < p.block.x.toNat, ∀ ty < p.block.y.toNat, ∀ i,
    i ∈ p.laneIndices (p.blockAt k) tx ty ↔ p.shape.Contains i ∧ home i = ⟨k, tx, ty⟩
  distinct : ∀ k < p.blockCount, ∀ tx < p.block.x.toNat, ∀ ty < p.block.y.toNat,
    (p.laneIndices (p.blockAt k) tx ty).Nodup

section
variable {p : LaunchPlan n} {home : Index n → Lane}

theorem Dealt.mem_blockIndices (dealt : p.Dealt home) (filled : p.shape.size ≠ 0) {k : Nat}
    (bound : k < p.blockCount) {i : Index n} :
    i ∈ p.blockIndices (p.blockAt k) ↔ p.shape.Contains i ∧ (home i).block = k := by
  rw [blockIndices, if_neg filled]
  simp only [List.mem_flatMap, List.mem_range]
  constructor
  · rintro ⟨ty, hy, tx, hx, member⟩
    obtain ⟨inside, same⟩ := (dealt.mem_iff k bound tx hx ty hy i).1 member
    exact ⟨inside, by rw [same]⟩
  · rintro ⟨inside, rfl⟩
    obtain ⟨-, hx, hy⟩ := dealt.lane i inside
    exact ⟨_, hy, _, hx, (dealt.mem_iff _ bound _ hx _ hy i).2 ⟨inside, rfl⟩⟩

theorem Dealt.nodup_blockIndices (dealt : p.Dealt home) (filled : p.shape.size ≠ 0) {k : Nat}
    (bound : k < p.blockCount) : (p.blockIndices (p.blockAt k)).Nodup := by
  rw [blockIndices, if_neg filled]
  refine nodup_flatMap_of_owner (fun i => (home i).y) List.nodup_range ?_ ?_
  · intro ty hy
    rw [List.mem_range] at hy
    refine nodup_flatMap_of_owner (fun i => (home i).x) List.nodup_range ?_ ?_
    · intro tx hx
      exact dealt.distinct k bound tx (List.mem_range.1 hx) ty hy
    · intro tx hx i member
      rw [((dealt.mem_iff k bound tx (List.mem_range.1 hx) ty hy i).1 member).2]
  · intro ty hy i member
    obtain ⟨tx, hx, member⟩ := List.mem_flatMap.1 member
    rw [((dealt.mem_iff k bound tx (List.mem_range.1 hx) ty (List.mem_range.1 hy) i).1 member).2]

theorem Dealt.count_cover (dealt : p.Dealt home) (filled : p.shape.size ≠ 0) (i : Index n) :
    ((List.range p.blockCount).flatMap fun k => p.blockIndices (p.blockAt k)).count i =
      if p.shape.Contains i then 1 else 0 := by
  have distinct : ((List.range p.blockCount).flatMap fun k =>
      p.blockIndices (p.blockAt k)).Nodup := by
    refine nodup_flatMap_of_owner (fun i => (home i).block) List.nodup_range ?_ ?_
    · intro k bound
      exact dealt.nodup_blockIndices filled (List.mem_range.1 bound)
    · intro k bound i member
      exact ((dealt.mem_blockIndices filled (List.mem_range.1 bound)).1 member).2
  rw [distinct.count]
  congr 1
  rw [List.mem_flatMap, eq_iff_iff]
  constructor
  · rintro ⟨k, bound, member⟩
    exact ((dealt.mem_blockIndices filled (List.mem_range.1 bound)).1 member).1
  · intro inside
    have bound := (dealt.lane i inside).1
    exact ⟨_, List.mem_range.2 bound, (dealt.mem_blockIndices filled bound).2 ⟨inside, rfl⟩⟩

end

theorem mul_add_eq_iff {q r size a : Nat} (below : r < size) :
    q * size + r = a ↔ a / size = q ∧ a % size = r := by
  rw [Nat.div_mod_unique (Nat.lt_of_le_of_lt (Nat.zero_le r) below), Nat.mul_comm size,
    Nat.add_comm r]
  exact (and_iff_left below).symm

-- The lane of a tile visits the index that it stands for, if the shape has that index.
theorem laneIndices_of_tiled {p : LaunchPlan n} (tiled : p.strategy ≠ .linear) (b : Dim3)
    (tx ty : Nat) :
    ∃ index : Index n, index.toList = tileDigits (b.x.toNat * p.block.x.toNat + tx)
        (b.y.toNat * p.block.y.toNat + ty) b.z.toNat p.shape.toList ∧
      p.laneIndices b tx ty = if p.shape.Contains index then [index] else [] := by
  unfold laneIndices
  split
  · rename_i line
    exact absurd line tiled
  · exact ⟨_, rfl, rfl⟩
  · exact ⟨_, rfl, rfl⟩

/-- A walk along a line by lanes that lie next to one another. -/
structure Lined (p : LaunchPlan n) : Prop where
  line : p.strategy = .linear
  laneX : 0 < p.block.x.toNat
  laneY : p.block.y.toNat = 1
  gridX : p.shape.size ≠ 0 → 0 < p.grid.x.toNat
  gridY : p.grid.y.toNat = 1
  gridZ : p.grid.z.toNat = 1

/-- The lane that reaches an index by whole strides along the line. -/
def lineHome (p : LaunchPlan n) (i : Index n) : Lane where
  block := p.shape.position i / p.block.x.toNat % p.grid.x.toNat
  x := p.shape.position i % p.block.x.toNat
  y := 0

-- Going by the stride of the whole grid keeps to the lane.
theorem exists_stride_iff {k r blocks size g : Nat} (block : k < blocks) (lane : r < size) :
    (∃ m, g = k * size + r + m * (blocks * size)) ↔ g / size % blocks = k ∧ g % size = r := by
  have regroup (m : Nat) : k * size + r + m * (blocks * size) = (m * blocks + k) * size + r := by
    rw [Nat.add_mul, Nat.mul_assoc]
    omega
  constructor
  · rintro ⟨m, rfl⟩
    obtain ⟨quotient, remainder⟩ := (mul_add_eq_iff lane).1 (regroup m).symm
    rw [quotient]
    exact ⟨((mul_add_eq_iff block).1 rfl).2, remainder⟩
  · rintro ⟨rfl, rfl⟩
    refine ⟨g / size / blocks, ?_⟩
    rw [regroup, Nat.div_add_mod', Nat.div_add_mod']

theorem Lined.dealt {p : LaunchPlan n} (lined : p.Lined) (filled : p.shape.size ≠ 0) :
    p.Dealt p.lineHome := by
  have count : p.blockCount = p.grid.x.toNat := by
    simp [blockCount, Dim3.volume, lined.gridY, lined.gridZ]
  have stride : 0 < p.grid.x.toNat * p.block.x.toNat :=
    Nat.mul_pos (lined.gridX filled) lined.laneX
  have start {k : Nat} (bound : k < p.blockCount) : (p.blockAt k).x.toNat = k := by
    have digits := toList_blockAt bound
    rw [Dim3.toList, Dim3.toList, Radix.digits, List.cons.injEq] at digits
    rw [digits.1, Nat.mod_eq_of_lt (count ▸ bound)]
  have visits {k : Nat} (bound : k < p.blockCount) (tx ty : Nat) :
      p.laneIndices (p.blockAt k) tx ty =
        (stridesBelow p.shape.size (k * p.block.x.toNat + tx)
          (p.grid.x.toNat * p.block.x.toNat)).map p.shape.unravel := by
    simp only [laneIndices, lined.line, start bound]
  constructor
  · intro i _
    rw [count, lined.laneY]
    exact ⟨Nat.mod_lt _ (lined.gridX filled), Nat.mod_lt _ lined.laneX, Nat.one_pos⟩
  · intro k bound tx hx ty hy i
    have reach := exists_stride_iff (g := p.shape.position i) (count ▸ bound) hx
    have row : ty = 0 := by have := lined.laneY; omega
    simp only [visits bound, List.mem_map, mem_stridesBelow stride, lineHome, Lane.mk.injEq, row,
      and_true]
    rw [← reach]
    constructor
    · rintro ⟨g, ⟨below, steps⟩, rfl⟩
      rw [Shape.position_unravel below]
      exact ⟨Shape.contains_unravel below, steps⟩
    · rintro ⟨inside, steps⟩
      exact ⟨_, ⟨Shape.position_lt_size inside, steps⟩, Shape.unravel_position inside⟩
  · intro k bound tx hx ty hy
    rw [visits bound]
    refine List.Nodup.map_on ?_ (nodup_stridesBelow stride)
    intro g member g' member' same
    rw [← Shape.position_unravel ((mem_stridesBelow stride).1 member).1, same,
      Shape.position_unravel ((mem_stridesBelow stride).1 member').1]

/-- Tiles over the first two dimensions. A row counts as a rectangle of height 1. -/
structure Tiled (p : LaunchPlan n) : Prop where
  tiled : p.strategy ≠ .linear
  ranked : p.shape.toList ≠ []
  laneX : 0 < p.block.x.toNat
  laneY : 0 < p.block.y.toNat
  gridX : p.grid.x.toNat = pieces (p.shape.toList.getD 0 1) p.block.x.toNat
  gridY : p.grid.y.toNat = pieces (p.shape.toList.getD 1 1) p.block.y.toNat
  gridZ : p.grid.z.toNat = Radix.size (p.shape.toList.drop 2)
  row : p.shape.toList.length = 1 → p.block.y.toNat = 1

def tileHome (p : LaunchPlan n) (i : Index n) : Lane where
  block := Radix.value p.grid.toList [i.toList.getD 0 0 / p.block.x.toNat,
    i.toList.getD 1 0 / p.block.y.toNat, Radix.value (p.shape.toList.drop 2) (i.toList.drop 2)]
  x := i.toList.getD 0 0 % p.block.x.toNat
  y := i.toList.getD 1 0 % p.block.y.toNat

theorem within_split {es is : List Nat} (ranked : es ≠ []) (within : Radix.Within es is) :
    is.getD 0 0 < es.getD 0 1 ∧ is.getD 1 0 < es.getD 1 1 ∧
      Radix.Within (es.drop 2) (is.drop 2) := by
  match es, is with
  | [e], [i] => exact ⟨within.1, Nat.one_pos, trivial⟩
  | e₀ :: e₁ :: outer, i :: j :: rest => exact ⟨within.1, within.2.1, within.2.2⟩

theorem tileDigits_eq_iff {es is : List Nat} {i j z : Nat} (ranked : es ≠ [])
    (within : Radix.Within es is) (bound : z < Radix.size (es.drop 2))
    (row : es.length = 1 → j = 0) :
    is = tileDigits i j z es ↔
      i = is.getD 0 0 ∧ j = is.getD 1 0 ∧ Radix.value (es.drop 2) (is.drop 2) = z := by
  match es, is with
  | [e], [k] =>
    have z₀ : z = 0 := by simpa [Radix.size] using bound
    simp [tileDigits, row rfl, z₀, Radix.value, eq_comm]
  | e₀ :: e₁ :: outer, k :: l :: rest =>
    have unpacked := Radix.value_eq_iff within.2.2 bound
    simp [tileDigits, unpacked, eq_comm]

section
variable {p : LaunchPlan n} (tiled : p.Tiled)
include tiled

-- The tile of an index is one of the grid's.
theorem Tiled.within_grid {i : Index n} (inside : p.shape.Contains i) :
    Radix.Within p.grid.toList [i.toList.getD 0 0 / p.block.x.toNat,
      i.toList.getD 1 0 / p.block.y.toNat,
      Radix.value (p.shape.toList.drop 2) (i.toList.drop 2)] := by
  obtain ⟨first, second, rest⟩ := within_split tiled.ranked (Shape.contains_iff_within.1 inside)
  refine ⟨?_, ?_, ?_, trivial⟩
  · rw [tiled.gridX]
    exact div_lt_pieces tiled.laneX first
  · rw [tiled.gridY]
    exact div_lt_pieces tiled.laneY second
  · rw [tiled.gridZ]
    exact Radix.value_lt_size rest

theorem Tiled.row_eq_zero {y ty : Nat} (row : p.shape.toList.length = 1)
    (bound : y < p.grid.y.toNat) (hy : ty < p.block.y.toNat) :
    y * p.block.y.toNat + ty = 0 := by
  have height := tiled.row row
  have one : p.shape.toList.getD 1 1 = 1 := by
    rw [List.getD_eq_getElem?_getD, List.getElem?_eq_none (Nat.le_of_eq row)]
    rfl
  rw [tiled.gridY, one, height, pieces, Nat.div_one] at bound
  rw [height] at hy ⊢
  omega

theorem Tiled.mem_laneIndices (b : Dim3) (tx ty : Nat) (i : Index n) :
    i ∈ p.laneIndices b tx ty ↔ p.shape.Contains i ∧
      i.toList = tileDigits (b.x.toNat * p.block.x.toNat + tx)
        (b.y.toNat * p.block.y.toNat + ty) b.z.toNat p.shape.toList := by
  obtain ⟨index, same, visits⟩ := laneIndices_of_tiled tiled.tiled b tx ty
  rw [visits, ← same, Vector.toList_inj]
  by_cases inside : p.shape.Contains index
  · rw [if_pos inside, List.mem_singleton]
    exact ⟨fun here => ⟨here ▸ inside, here⟩, And.right⟩
  · rw [if_neg inside]
    constructor
    · intro member
      cases member
    · rintro ⟨contained, rfl⟩
      exact absurd contained inside

theorem Tiled.dealt : p.Dealt p.tileHome := by
  constructor
  · intro i inside
    rw [blockCount_eq_size]
    exact ⟨Radix.value_lt_size (tiled.within_grid inside), Nat.mod_lt _ tiled.laneX,
      Nat.mod_lt _ tiled.laneY⟩
  · intro k bound tx hx ty hy i
    rw [tiled.mem_laneIndices]
    refine and_congr_right fun inside => ?_
    have inSize : k < Radix.size p.grid.toList := blockCount_eq_size p ▸ bound
    have gridded := Radix.within_digits inSize
    have block := Radix.value_eq_iff (tiled.within_grid inside) inSize
    rw [← toList_blockAt bound] at gridded block
    obtain ⟨-, second, third, -⟩ := gridded
    rw [tileDigits_eq_iff tiled.ranked (Shape.contains_iff_within.1 inside) (tiled.gridZ ▸ third)
        (fun row => tiled.row_eq_zero row second hy),
      mul_add_eq_iff hx, mul_add_eq_iff hy]
    simp only [tileHome, Lane.mk.injEq, block]
    simp only [Dim3.toList, List.cons.injEq, and_true]
    tauto
  · intro k bound tx hx ty hy
    obtain ⟨index, -, visits⟩ := laneIndices_of_tiled tiled.tiled (p.blockAt k) tx ty
    rw [visits]
    split <;> simp

end

-- The lanes of a plan in which the stride of the line is positive have a walk.
theorem laneWalk_laneIndices {p : LaunchPlan n} {b : Dim3} (filled : p.shape.size ≠ 0)
    (moves : p.strategy = .linear → 0 < p.grid.x.toNat * p.block.x.toNat) (tx ty : Nat) :
    LaneWalk p b tx ty (p.laneIndices b tx ty) := by
  by_cases line : p.strategy = .linear
  · refine .line line (strideLoop_stridesBelow (moves line) _) ?_ ?_
    · intro g _
      rw [Radix.digits?_eq filled]
      rfl
    · simp only [laneIndices, line]
  · obtain ⟨index, same, visits⟩ := laneIndices_of_tiled line b tx ty
    have contains := Shape.contains_iff_within (s := p.shape) (i := index)
    rw [same, within_tileDigits filled, Shape.length_toList] at contains
    rw [visits]
    split
    · rename_i inside
      refine .tile line (contains.1 inside)
        (Radix.digits?_eq (size_drop_ne_zero filled 2) _) ?_
      rw [same, tileDigits_eq_append, Shape.length_toList]
    · rename_i outside
      exact .beyond line fun inside => outside (contains.2 inside)

theorem Planned.lined_or_tiled {s : Shape n} {c : ExecConfig} {p : LaunchPlan n}
    (valid : c.Valid) (planned : Planned s c p) (filled : s.size ≠ 0) : p.Lined ∨ p.Tiled := by
  cases planned with
  | line =>
    have some : 0 < pieces s.size c.blockLinear.toNat := by
      rw [lt_pieces_iff valid.blockLinear]
      omega
    have grid := toNat_ofNat_of_le
      (Nat.min_le_right (pieces s.size c.blockLinear.toNat) c.maxLinearBlocks.toNat)
      c.maxLinearBlocks.toNat_lt
    refine .inl ⟨rfl, valid.blockLinear, rfl, fun _ => ?_, rfl, rfl⟩
    change 0 < (UInt32.ofNat _).toNat
    rw [grid]
    exact Nat.lt_min.2 ⟨some, valid.maxLinearBlocks⟩
  | row extents filled boundX =>
    have narrow := toNat_ofNat_of_le boundX (by decide)
    refine .inr ⟨?_, ?_, valid.block1d, Nat.one_pos, ?_, ?_, ?_, fun _ => rfl⟩
    all_goals simp only [extents]
    · simp
    · exact List.cons_ne_nil _ _
    · exact narrow
    · simp [Dim3.ofNats, pieces]
    · rfl
  | tiles extents filled boundX boundY boundZ =>
    have narrowX := toNat_ofNat_of_le boundX (by decide)
    have narrowY := toNat_ofNat_of_le boundY (by decide)
    have narrowZ := toNat_ofNat_of_le boundZ (by decide)
    refine .inr ⟨?_, ?_, valid.blockX, valid.blockY, ?_, ?_, ?_, ?_⟩
    all_goals simp only [extents]
    · split <;> simp
    · exact List.cons_ne_nil _ _
    · exact narrowX
    · exact narrowY
    · exact narrowZ
    · simp

theorem Planned.exists_dealt {s : Shape n} {c : ExecConfig} {p : LaunchPlan n}
    (valid : c.Valid) (planned : Planned s c p) (filled : s.size ≠ 0) :
    ∃ home, p.Dealt home := by
  rcases planned.lined_or_tiled valid filled with lined | tiled
  · exact ⟨_, lined.dealt (planned.shape_eq ▸ filled)⟩
  · exact ⟨_, tiled.dealt⟩

theorem Planned.count_cover {s : Shape n} {c : ExecConfig} {p : LaunchPlan n}
    (valid : c.Valid) (planned : Planned s c p) (i : Index n) :
    ((List.range p.blockCount).flatMap fun k => p.blockIndices (p.blockAt k)).count i =
      if s.Contains i then 1 else 0 := by
  have shape := planned.shape_eq
  by_cases filled : s.size = 0
  · have outside : ¬ s.Contains i := fun inside => by
      have := Shape.position_lt_size inside
      omega
    have nothing : ((List.range p.blockCount).flatMap fun k => p.blockIndices (p.blockAt k)) = [] :=
      List.flatMap_eq_nil_iff.2 fun k _ => if_pos (shape ▸ filled)
    rw [nothing, if_neg outside]
    rfl
  · obtain ⟨home, dealt⟩ := planned.exists_dealt valid filled
    rw [dealt.count_cover (shape ▸ filled), shape]

theorem Planned.laneWalk {s : Shape n} {c : ExecConfig} {p : LaunchPlan n}
    (valid : c.Valid) (planned : Planned s c p) (filled : s.size ≠ 0) (b : Dim3) (tx ty : Nat) :
    LaneWalk p b tx ty (p.laneIndices b tx ty) := by
  refine laneWalk_laneIndices (planned.shape_eq ▸ filled) (fun line => ?_) tx ty
  rcases planned.lined_or_tiled valid filled with lined | tiled
  · exact Nat.mul_pos (lined.gridX (planned.shape_eq ▸ filled)) lined.laneX
  · exact absurd line tiled.tiled

/-- Under valid settings every shape has a plan, every block of it a position and every lane a walk
that ends; all blocks together visit each index of the shape once and no other index. -/
theorem cover_once (s : Shape n) {c : ExecConfig} (valid : c.validate = .ok ()) :
    ∃ p, ofShape? s c = some p ∧ p.shape = s ∧
      (∀ k < p.blockCount, ∃ b, p.blockCoords? k = some b ∧
        (s.size ≠ 0 → ∀ tx < p.block.x.toNat, ∀ ty < p.block.y.toNat,
          LaneWalk p b tx ty (p.laneIndices b tx ty))) ∧
      ∃ blocks, p.cover? = some blocks ∧
        ∀ i, blocks.flatten.count i = if s.Contains i then 1 else 0 := by
  have valid := ExecConfig.validate_eq_ok_iff.1 valid
  obtain ⟨p, found, planned⟩ := exists_planned valid s
  refine ⟨p, found, planned.shape_eq, ?_, _, cover?_eq p, ?_⟩
  · intro k bound
    exact ⟨_, blockCoords?_eq bound, fun filled tx _ ty _ => planned.laneWalk valid filled _ tx ty⟩
  · intro i
    rw [← List.flatMap_def]
    exact planned.count_cover valid i

-- Two blocks of three lanes stride along a line of fifteen elements.
def cappedLine : ExecConfig where
  blockLinear := 3
  maxLinearBlocks := 2
  forceLinear := true
  numThreads := 1

theorem cover_once_cappedLine :
    cappedLine.validate = .ok () ∧
      ∃ p, ofShape? (⟨#v[5, 3]⟩ : Shape 2) cappedLine = some p ∧
        ∃ blocks, p.cover? = some blocks ∧ blocks.length = 2 ∧
          blocks.flatten.count #v[4, 2] = 1 := by
  have valid : cappedLine.validate = .ok () := rfl
  obtain ⟨p, found, -, -, blocks, covered, counts⟩ := cover_once ⟨#v[5, 3]⟩ valid
  refine ⟨valid, p, found, blocks, covered, ?_, ?_⟩
  · cases found
    cases covered
    rfl
  · rw [counts]
    rfl

end LaunchPlan

end Strided
