import Mathlib.Data.List.Basic
import Std.Data.String.ToNat
import Strided.Device.CExpr
import Strided.Text.Words

/-! What the text of an expression names.

An expression is written with separators between its parts, so the words of its text are those of
its names, literals and types and a few fixed ones. Words of the fixed kind and numbers are not to
be confused with the name of a parameter or of a type that needs a header.
-/

set_option autoImplicit false

namespace Strided

variable {t : DType}

namespace CName

inductive IsParameter : CName → Prop where
  | pointer (k : Nat) : IsParameter (.pointer k)
  | scalar (k : Nat) : IsParameter (.scalar k)

theorem toList_numbered (letter : String) (k : Nat) :
    (letter ++ k.repr).toList = letter.toList ++ Nat.toDigits 10 k := by
  rw [String.toList_append, Nat.toList_repr]

theorem toList_text_pointer (k : Nat) : (pointer k).text.toList = 'p' :: Nat.toDigits 10 k :=
  toList_numbered "p" k

theorem toList_text_scalar (k : Nat) : (scalar k).text.toList = 's' :: Nat.toDigits 10 k :=
  toList_numbered "s" k

theorem toList_text_index (d : Nat) : (index d).text.toList = 'i' :: Nat.toDigits 10 d :=
  toList_numbered "i" d

theorem IsParameter.exists_digits {x : CName} (parameter : x.IsParameter) :
    ∃ letter k, (letter = 'p' ∨ letter = 's') ∧ x.text.toList = letter :: Nat.toDigits 10 k := by
  cases parameter with
  | pointer k => exact ⟨'p', k, .inl rfl, toList_text_pointer k⟩
  | scalar k => exact ⟨'s', k, .inr rfl, toList_text_scalar k⟩

theorem toDigits_inj {j k : Nat} (same : Nat.toDigits 10 j = Nat.toDigits 10 k) : j = k := by
  rw [← Nat.toList_repr, ← Nat.toList_repr, String.toList_inj] at same
  exact Nat.repr_inj.1 same

theorem IsParameter.text_inj {x y : CName} (first : x.IsParameter) (second : y.IsParameter)
    (same : x.text = y.text) : x = y := by
  have letters := congrArg String.toList same
  cases first <;> cases second
  all_goals simp only [toList_text_pointer, toList_text_scalar, List.cons.injEq] at letters
  · rw [toDigits_inj letters.2]
  · exact absurd letters.1 (by decide)
  · exact absurd letters.1 (by decide)
  · rw [toDigits_inj letters.2]

end CName

def isParameterName (w : String) : Bool :=
  match w.toList with
  | 'p' :: digits | 's' :: digits => !digits.isEmpty && digits.all Char.isDigit
  | _ => false

theorem isDigit_of_mem {k : Nat} {c : Char} (member : c ∈ Nat.toDigits 10 k) : c.isDigit :=
  Nat.isDigit_of_mem_toDigits (by decide) (Nat.le_refl _) member

theorem CName.IsParameter.isParameterName_text {x : CName} (parameter : x.IsParameter) :
    isParameterName x.text := by
  obtain ⟨letter, k, starts, letters⟩ := parameter.exists_digits
  have some : (Nat.toDigits 10 k).isEmpty = false := List.isEmpty_eq_false_iff.2 Nat.toDigits_ne_nil
  have digits : (Nat.toDigits 10 k).all Char.isDigit := List.all_eq_true.2 fun _ => isDigit_of_mem
  rw [isParameterName, letters]
  rcases starts with rfl | rfl <;> simp [some, digits]

/-- The word by which a type that needs a header is known. -/
def Header.mark : Header → String
  | complex => "complex"
  | half => "__half"
  | bfloat => "__nv_bfloat16"

/-- A word that names no parameter and no type that needs a header. -/
def isPlain (w : String) : Bool :=
  !isParameterName w &&
    !([Header.complex.mark, Header.half.mark, Header.bfloat.mark].contains w)

/-- The letters with which the other words can be told. -/
def telling : List Char :=
  ['p', 's', 'c', '_']

theorem forall_telling {p : Char → Prop} :
    (∀ c ∈ telling, p c) ↔ p 'p' ∧ p 's' ∧ p 'c' ∧ p '_' := by
  simp [telling]

theorem isPlain_of_letters {w : String} (letters : ∀ c ∈ telling, c ∉ w.toList) :
    isPlain w := by
  have name : isParameterName w = false := by
    unfold isParameterName
    split
    · rename_i text
      exact absurd (text ▸ List.mem_cons_self) (letters 'p' (by decide))
    · rename_i text
      exact absurd (text ▸ List.mem_cons_self) (letters 's' (by decide))
    · rfl
  have mark : w ∉ [Header.complex.mark, Header.half.mark, Header.bfloat.mark] := by
    simp only [List.mem_cons, List.not_mem_nil, or_false]
    rintro (rfl | rfl | rfl)
    · exact letters 'c' (by decide) (by decide)
    · exact letters '_' (by decide) (by decide)
    · exact letters '_' (by decide) (by decide)
  simp [isPlain, name, mark]

/-- A text that names no parameter but the given ones, and of the types that need a header none
but the given ones. -/
def Speaks (names : List CName) (types : List DType) (s : String) : Prop :=
  ∀ w ∈ Text.words s, isPlain w ∨ w ∈ names.map CName.text ∨ ∃ t ∈ types, w ∈ Text.words t.cName

section
variable {names : List CName} {types : List DType} {a b s : String}

theorem Speaks.plain (all : (Text.words s).all isPlain) : Speaks names types s :=
  fun w member => .inl (List.all_eq_true.1 all w member)

theorem Speaks.letters (letters : ∀ c ∈ telling, c ∉ s.toList) :
    Speaks names types s :=
  fun _ member => .inl (isPlain_of_letters fun c odd inside =>
    letters c odd (Text.mem_of_mem_words member inside))

theorem Speaks.append (apart : Text.opens a ∨ Text.closes b) (first : Speaks names types a)
    (second : Speaks names types b) : Speaks names types (a ++ b) := by
  have split : Text.words (a ++ b) = Text.words a ++ Text.words b := by
    rcases apart with opened | closed
    · exact Text.words_append_of_opens opened b
    · exact Text.words_append_of_closes a closed
  intro w member
  rw [split, List.mem_append] at member
  exact member.elim (first w) (second w)

-- A text between two others that keep their words to themselves.
theorem Speaks.between (opened : Text.opens a) (closed : Text.closes b)
    (before : Speaks names types a) (inner : Speaks names types s)
    (after : Speaks names types b) : Speaks names types (a ++ s ++ b) :=
  .append (.inr closed) (.append (.inl opened) before inner) after

theorem Speaks.cName (member : t ∈ types) : Speaks names types t.cName :=
  fun _ found => .inr (.inr ⟨t, member, found⟩)

theorem Speaks.parameter {x : CName} (parameter : x.IsParameter) (member : x ∈ names) :
    Speaks names types x.text := by
  obtain ⟨letter, k, starts, letters⟩ := parameter.exists_digits
  have nonempty : x.text ≠ "" := by
    intro empty
    rw [empty] at letters
    cases letters
  have single : Text.words x.text = [x.text] := by
    refine Text.words_of_forall nonempty ?_
    rw [letters, List.forall_mem_cons]
    refine ⟨?_, fun c digit => ?_⟩
    · rcases starts with rfl | rfl <;> rfl
    · simp [Text.isWordCharacter, Char.isAlphanum, isDigit_of_mem digit]
  intro w found
  rw [single, List.mem_singleton] at found
  exact .inr (.inl (found ▸ List.mem_map_of_mem member))

end

namespace CExpr

/-- The parameters of an expression and the element types that it names are among the given
ones. -/
def Over (names : List CName) (types : List DType) : CExpr → Prop
  | name x => x.IsParameter → x ∈ names
  | literal _ _ => True
  | paren e | negative e | call _ e | realPart e | imaginaryPart e => e.Over names types
  | binary _ l r => l.Over names types ∧ r.Over names types
  | conditional test yes no =>
    test.Over names types ∧ yes.Over names types ∧ no.Over names types
  | staticCast type e | leadingCast type e =>
    (∀ t, type = .elem t → t ∈ types) ∧ e.Over names types
  | subscript array index => array.Over names types ∧ index.Over names types
  | convert t e => t ∈ types ∧ e.Over names types
  | complex t re im => t ∈ types ∧ re.Over names types ∧ im.Over names types

variable {names : List CName} {types : List DType}

theorem digitless {c : Char} (odd : c ∈ telling) {k : Nat} : c ∉ Nat.toDigits 10 k := by
  intro member
  have none : ∀ c ∈ telling, c.isDigit = false := forall_telling.2 ⟨rfl, rfl, rfl, rfl⟩
  exact Bool.false_ne_true ((none c odd).symm.trans (isDigit_of_mem member))

theorem speaks_name {x : CName} (known : x.IsParameter → x ∈ names) :
    Speaks names types x.text := by
  match x with
  | .pointer k => exact .parameter (.pointer k) (known (.pointer k))
  | .scalar k => exact .parameter (.scalar k) (known (.scalar k))
  | .index d =>
    refine .letters fun c odd => ?_
    rw [CName.toList_text_index, List.mem_cons, not_or]
    exact ⟨fun same => absurd (same ▸ odd) (by decide), fun digit => digitless odd digit⟩
  | .element | .rest | .outer => exact .plain (by decide)
  | .blockIdx a | .threadIdx a | .blockDim a | .gridDim a => cases a <;> exact .plain (by decide)

theorem speaks_literal (value : Int) (suffix : CSuffix) :
    Speaks names types (literal value suffix).text := by
  refine Speaks.letters fun c odd => ?_
  have suffixed : ∀ c ∈ telling, c ∉ suffix.text.toList := by
    rw [forall_telling]
    cases suffix <;> decide
  have digits (k : Nat) : c ∉ k.repr.toList := by
    rw [Nat.toList_repr]
    exact digitless odd
  rw [text, String.toList_append, List.mem_append, not_or, Int.toString_eq_repr, Int.repr_eq_if]
  refine ⟨?_, suffixed c odd⟩
  split
  · exact digits _
  · rw [String.toList_append, List.mem_append, not_or]
    exact ⟨fun minus => absurd (List.mem_singleton.1 minus ▸ odd) (by decide), digits _⟩

theorem speaks_type {type : CType} (known : ∀ t, type = .elem t → t ∈ types) :
    Speaks names types type.text := by
  match type with
  | .elem t => exact .cName (known t rfl)
  | .sizeT | .longLong | .double => exact .plain (by decide)

-- What holds of the names and types of an expression holds of the words of its text.
theorem Over.speaks {e : CExpr} (formed : e.Over names types) : Speaks names types e.text := by
  induction e with
  | name x => exact speaks_name formed
  | literal value suffix => exact speaks_literal value suffix
  | paren e ih => exact .between rfl rfl (.plain rfl) (ih formed) (.plain rfl)
  | negative e ih => exact .append (.inl rfl) (.plain rfl) (ih formed)
  | binary op l r ihl ihr =>
    have operator : Speaks names types op.text := by cases op <;> exact .plain rfl
    have left : Speaks names types (l.text ++ " ") := .append (.inr rfl) (ihl formed.1) (.plain rfl)
    have middle : Speaks names types (l.text ++ " " ++ op.text ++ " ") :=
      .between (Text.opens_append _ rfl) rfl left operator (.plain rfl)
    exact .append (.inl (Text.opens_append _ rfl)) middle (ihr formed.2)
  | conditional test yes no iht ihy ihn =>
    have first : Speaks names types (test.text ++ " ? ") :=
      .append (.inr rfl) (iht formed.1) (.plain rfl)
    have second : Speaks names types (test.text ++ " ? " ++ yes.text ++ " : ") :=
      .between (Text.opens_append _ rfl) rfl first (ihy formed.2.1) (.plain rfl)
    exact .append (.inl (Text.opens_append _ rfl)) second (ihn formed.2.2)
  | staticCast type e ih =>
    have cast : Speaks names types ("static_cast<" ++ type.text ++ ">(") :=
      .between rfl rfl (.plain rfl) (speaks_type formed.1) (.plain rfl)
    exact .between (Text.opens_append _ rfl) rfl cast (ih formed.2) (.plain rfl)
  | leadingCast type e ih =>
    have cast : Speaks names types ("(" ++ type.text ++ ")") :=
      .between rfl rfl (.plain rfl) (speaks_type formed.1) (.plain rfl)
    exact .append (.inl (Text.opens_append _ rfl)) cast (ih formed.2)
  | call function e ih =>
    have head : Speaks names types (function.text ++ "(") := by cases function <;> exact .plain rfl
    exact .between (Text.opens_append _ rfl) rfl head (ih formed) (.plain rfl)
  | subscript array index iha ihi =>
    have head : Speaks names types (array.text ++ "[") :=
      .append (.inr rfl) (iha formed.1) (.plain rfl)
    exact .between (Text.opens_append _ rfl) rfl head (ihi formed.2) (.plain rfl)
  | convert t e ih =>
    have head : Speaks names types (t.cName ++ "(") :=
      .append (.inr rfl) (.cName formed.1) (.plain rfl)
    exact .between (Text.opens_append _ rfl) rfl head (ih formed.2) (.plain rfl)
  | complex t re im ihr ihi =>
    have head : Speaks names types (t.cName ++ "(") :=
      .append (.inr rfl) (.cName formed.1) (.plain rfl)
    have first : Speaks names types (t.cName ++ "(" ++ re.text ++ ", ") :=
      .between (Text.opens_append _ rfl) rfl head (ihr formed.2.1) (.plain rfl)
    exact .between (Text.opens_append _ rfl) rfl first (ihi formed.2.2) (.plain rfl)
  | realPart e ih | imaginaryPart e ih =>
    exact .append (.inr rfl) (ih formed) (.plain rfl)

theorem Over.mono {names' : List CName} {types' : List DType} (more : names ⊆ names')
    (wider : types ⊆ types') {e : CExpr} (formed : e.Over names types) : e.Over names' types' := by
  induction e with
  | name x => exact fun parameter => more (formed parameter)
  | literal => trivial
  | paren e ih | negative e ih | call _ e ih | realPart e ih | imaginaryPart e ih => exact ih formed
  | binary _ l r ihl ihr => exact ⟨ihl formed.1, ihr formed.2⟩
  | subscript _ _ iha ihi => exact ⟨iha formed.1, ihi formed.2⟩
  | conditional _ _ _ iht ihy ihn => exact ⟨iht formed.1, ihy formed.2.1, ihn formed.2.2⟩
  | staticCast _ _ ih | leadingCast _ _ ih =>
    exact ⟨fun t named => wider (formed.1 t named), ih formed.2⟩
  | convert _ _ ih => exact ⟨wider formed.1, ih formed.2⟩
  | complex _ _ _ ihr ihi => exact ⟨wider formed.1, ihr formed.2.1, ihi formed.2.2⟩

theorem over_sum {es : List CExpr} (each : ∀ e ∈ es, e.Over names types) :
    (CExpr.sum es).Over names types := by
  cases es with
  | nil => trivial
  | cons first rest =>
    rw [sum]
    induction rest generalizing first with
    | nil => exact each first List.mem_cons_self
    | cons second rest ih =>
      obtain ⟨one, two, others⟩ := List.forall_mem_cons.1 each |>.imp_right List.forall_mem_cons.1
      exact ih _ (List.forall_mem_cons.2 ⟨⟨one, two⟩, others⟩)

end CExpr

section
variable {names : List CName} {types : List DType} {s : String} (speaks : Speaks names types s)
include speaks

theorem Speaks.mem_names {w : String} (member : w ∈ Text.words s) (named : isParameterName w) :
    w ∈ names.map CName.text := by
  have other (t : DType) : ∀ w ∈ Text.words t.cName, isParameterName w = false := by
    cases t <;> decide
  rcases speaks w member with plain | known | ⟨t, -, found⟩
  · simp [isPlain, named] at plain
  · exact known
  · exact absurd named (by simp [other t w found])

theorem Speaks.exists_type (parameters : ∀ x ∈ names, x.IsParameter) {h : Header}
    (member : h.mark ∈ Text.words s) : ∃ t ∈ types, t.header = some h := by
  have marked : isPlain h.mark = false ∧ isParameterName h.mark = false := by
    cases h <;> decide
  have owner (t : DType) : h.mark ∈ Text.words t.cName → t.header = some h := by
    cases t <;> cases h <;> decide
  rcases speaks h.mark member with plain | known | ⟨t, listed, found⟩
  · exact absurd plain (by simp [marked.1])
  · obtain ⟨x, listed, text⟩ := List.mem_map.1 known
    have named := (parameters x listed).isParameterName_text
    rw [text, marked.2] at named
    cases named
  · exact ⟨t, listed, owner t found⟩

end

theorem DType.mark_mem_words {t : DType} {h : Header} (needed : t.header = some h) :
    h.mark ∈ Text.words t.cName := by
  revert h
  cases t <;> intro h needed <;> cases needed <;> decide

theorem Header.text_inj {g h : Header} (same : g.text = h.text) : g = h := by
  cases g <;> cases h <;> first | rfl | exact absurd same (by decide)

end Strided
