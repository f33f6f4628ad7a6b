import Mathlib.Data.List.SplitBy
import Mathlib.Data.List.TakeDrop
import Strided.Device.Reading
import Strided.Proofs.DeviceArithmetic
import Strided.Proofs.Wording

/-! What the text of an expression is read as.

The tokens of an expression are those of its parts, since nothing that is written between two parts
runs into them. From the tokens the reader finds the expression again when every operand binds as
tightly as its place asks for. The one difference is that a negative number is read as the negation
of a number, which has the same value.
-/

set_option autoImplicit false

namespace Strided

namespace CToken

/-- A character that is a piece of its own wherever it stands. -/
def isLoose (c : Char) : Bool :=
  !isNameCharacter c && !isOperatorCharacter c

section
variable {a b s : String} {xs ys zs : List CToken}

theorem pieces_append (apart : ∀ c ∈ a.toList.getLast?, ∀ d ∈ b.toList.head?, joined c d = false) :
    pieces (a ++ b) = pieces a ++ pieces b := by
  rw [pieces, String.toList_append, List.splitBy_append apart, List.filter_append, pieces, pieces]

theorem ofText?_append
    (apart : ∀ c ∈ a.toList.getLast?, ∀ d ∈ b.toList.head?, joined c d = false)
    (first : ofText? a = some xs) (second : ofText? b = some ys) :
    ofText? (a ++ b) = some (xs ++ ys) := by
  rw [ofText?] at first second
  rw [ofText?, pieces_append apart, List.mapM_append, first, second]
  rfl

theorem ofText?_append_of_endsIn (ends : Text.endsIn isLoose a) (first : ofText? a = some xs)
    (second : ofText? b = some ys) : ofText? (a ++ b) = some (xs ++ ys) := by
  refine ofText?_append (fun c last d _ => ?_) first second
  rw [Text.endsIn, last] at ends
  simp_all [joined, isLoose]

theorem ofText?_append_of_startsIn (starts : Text.startsIn isLoose b) (first : ofText? a = some xs)
    (second : ofText? b = some ys) : ofText? (a ++ b) = some (xs ++ ys) := by
  refine ofText?_append (fun c _ d head => ?_) first second
  rw [Text.startsIn, head] at starts
  simp_all [joined, isLoose]

-- A text between two others that keep their pieces to themselves.
theorem ofText?_between (ends : Text.endsIn isLoose a) (starts : Text.startsIn isLoose b)
    (before : ofText? a = some xs) (inner : ofText? s = some ys) (after : ofText? b = some zs) :
    ofText? (a ++ s ++ b) = some (xs ++ ys ++ zs) :=
  ofText?_append_of_startsIn starts (ofText?_append_of_endsIn ends before inner) after

end

theorem ofText?_word {s : String} {token : CToken} (nonempty : s.toList ≠ [])
    (word : ∀ c ∈ s.toList, Text.isWordCharacter c) (read : ofPiece? s.toList = some token) :
    ofText? s = some [token] := by
  have chain : s.toList.IsChain fun a b => joined a b = true := by
    refine (List.pairwise_of_forall_mem_list fun a first b second => ?_).isChain
    simp [joined, isNameCharacter, word a first, word b second]
  have solid : isBlank s.toList = false := by
    rw [isBlank, Bool.or_eq_false_iff, beq_eq_false_iff_ne, beq_eq_false_iff_ne]
    constructor <;> intro blank <;> rw [blank] at word
    · exact absurd (word ' ' List.mem_cons_self) (by decide)
    · exact absurd (word '\n' List.mem_cons_self) (by decide)
  rw [ofText?, pieces, List.splitBy_of_isChain nonempty chain, List.filter_singleton, solid,
    Bool.not_false, cond_true, List.mapM_cons, read]
  rfl

theorem digits?_toDigits (k : Nat) : digits? (Nat.toDigits 10 k) = some k := by
  simp [digits?, Nat.ofDigitChars_toDigits]

theorem isWordCharacter_of_digit {k : Nat} {c : Char} (digit : c ∈ Nat.toDigits 10 k) :
    Text.isWordCharacter c := by
  simp [Text.isWordCharacter, Char.isAlphanum, isDigit_of_mem digit]

theorem ofText?_numbered {s : String} {letter : Char} {k : Nat} {x : CName}
    (text : s.toList = letter :: Nat.toDigits 10 k) (word : Text.isWordCharacter letter)
    (letters : letter.isDigit = false)
    (read : numbered? (letter :: Nat.toDigits 10 k) = some (name x)) :
    ofText? s = some [name x] := by
  apply ofText?_word
  · rw [text]
    exact List.cons_ne_nil _ _
  · rw [text, List.forall_mem_cons]
    exact ⟨word, fun _ => isWordCharacter_of_digit⟩
  · have other : number? (letter :: Nat.toDigits 10 k) = none := by
      rw [number?, List.span_eq_takeWhile_dropWhile, List.takeWhile_cons_of_neg (by simp [letters])]
      rfl
    rw [text, ofPiece?, other, read]
    rfl

theorem ofText?_name (x : CName) : ofText? x.text = some [name x] := by
  match x with
  | .pointer k =>
    refine ofText?_numbered (CName.toList_text_pointer k) rfl rfl ?_
    rw [numbered?, digits?_toDigits, Option.map_some]
  | .scalar k =>
    refine ofText?_numbered (CName.toList_text_scalar k) rfl rfl ?_
    rw [numbered?, digits?_toDigits, Option.map_some]
  | .index d =>
    refine ofText?_numbered (CName.toList_text_index d) rfl rfl ?_
    rw [numbered?, digits?_toDigits, Option.map_some]
  | .element | .rest | .outer => decide
  | .blockIdx a | .threadIdx a | .blockDim a | .gridDim a => cases a <;> decide

theorem toList_number (k : Nat) (suffix : CSuffix) :
    (k.repr ++ suffix.text).toList = Nat.toDigits 10 k ++ suffix.text.toList := by
  rw [String.toList_append, Nat.toList_repr]

theorem ofText?_number (k : Nat) (suffix : CSuffix) :
    ofText? (k.repr ++ suffix.text) = some [number k suffix] := by
  have letters : ∀ c ∈ suffix.text.toList, Text.isWordCharacter c ∧ c.isDigit = false := by
    have all : suffix.text.toList.all fun c => Text.isWordCharacter c && !c.isDigit := by
      cases suffix <;> decide
    simpa using all
  apply ofText?_word
  · rw [toList_number]
    exact List.append_ne_nil_of_left_ne_nil Nat.toDigits_ne_nil _
  · rw [toList_number, List.forall_mem_append]
    exact ⟨fun _ => isWordCharacter_of_digit, fun c member => (letters c member).1⟩
  · have cut : (Nat.toDigits 10 k ++ suffix.text.toList).span Char.isDigit =
        (Nat.toDigits 10 k, suffix.text.toList) := by
      rw [List.span_eq_takeWhile_dropWhile, List.takeWhile_append_of_pos fun _ => isDigit_of_mem,
        List.dropWhile_append_of_pos fun _ => isDigit_of_mem]
      cases suffix <;> simp [CSuffix.text]
    have known : CSuffix.ofText? suffix.text.toList = some suffix := by
      cases suffix <;> rfl
    rw [toList_number, ofPiece?, number?, cut]
    simp [digits?_toDigits, known]

theorem ofText?_negated (k : Nat) (suffix : CSuffix) :
    ofText? ("-" ++ (k.repr ++ suffix.text)) = some [minus, number k suffix] := by
  refine ofText?_append ?_ (by decide : ofText? "-" = some [minus]) (ofText?_number k suffix)
  intro c last d head
  obtain rfl : c = '-' := by simpa using last.symm
  have digit : d.isDigit := by
    rw [toList_number] at head
    cases digits : Nat.toDigits 10 k with
    | nil => exact absurd digits Nat.toDigits_ne_nil
    | cons first rest =>
      rw [digits] at head
      obtain rfl : first = d := by simpa using head
      exact isDigit_of_mem (digits ▸ List.mem_cons_self)
  have other : isOperatorCharacter d = false := by
    by_contra operator
    have mark : ∀ c ∈ ['+', '-', '*', '/', '%', '=', '<', '>', '|', '&', '!'],
        c.isDigit = false := by simp
    rw [Bool.not_eq_false, isOperatorCharacter, List.contains_iff_mem] at operator
    exact Bool.false_ne_true ((mark d operator).symm.trans digit)
  simp [joined, other, isNameCharacter, Text.isWordCharacter, Char.isAlphanum]

end CToken

open CToken

namespace CExpr

inductive Readable : CExpr → Prop
  | name (x : CName) : Readable (.name x)
  | literal (value : Int) (suffix : CSuffix) : Readable (.literal value suffix)
  | toSize {e : CExpr} (operand : Readable e) : Readable (.leadingCast .sizeT e)
  | toLong {e : CExpr} (operand : Readable e) : Readable (.leadingCast .longLong e)
  | binary {op : COperator} {l r : CExpr} (between : op ≠ .sub) (left : Readable l)
    (right : Readable r) : Readable (.binary op l r)

def tokens : CExpr → List CToken
  | name x => [.name x]
  | literal (.ofNat k) suffix => [.number k suffix]
  | literal (.negSucc k) suffix => [.minus, .number (k + 1) suffix]
  | leadingCast .sizeT e => .opening :: .sizeT :: .closing :: e.tokens
  | leadingCast .longLong e => .opening :: .long :: .long :: .closing :: e.tokens
  | binary op l r => l.tokens ++ .operator op :: r.tokens
  | _ => []

/-- An expression as it is read: the sign of a negative number is an operator. -/
def spelled : CExpr → CExpr
  | literal (.negSucc k) suffix => negative (literal (k + 1 : Nat) suffix)
  | leadingCast type e => leadingCast type e.spelled
  | binary op l r => binary op l.spelled r.spelled
  | e => e

variable {e : CExpr}

theorem ofText?_literal (value : Int) (suffix : CSuffix) :
    ofText? (literal value suffix).text = some (literal value suffix).tokens := by
  cases value with
  | ofNat k => exact ofText?_number k suffix
  | negSucc k =>
    have text : (literal (.negSucc k) suffix).text = "-" ++ ((k + 1).repr ++ suffix.text) := by
      rw [CExpr.text, ← String.append_assoc]
      rfl
    rw [text]
    exact ofText?_negated (k + 1) suffix

-- Blanks stand around an operator, and after a cast its parenthesis.
theorem Readable.ofText?_text (readable : e.Readable) : ofText? e.text = some e.tokens := by
  induction readable with
  | name x => exact ofText?_name x
  | literal value suffix => exact ofText?_literal value suffix
  | toSize operand ih =>
    have cast : ofText? ("(" ++ CType.sizeT.text ++ ")") = some [.opening, .sizeT, .closing] := by
      decide
    exact ofText?_append_of_endsIn rfl cast ih
  | toLong operand ih =>
    have cast : ofText? ("(" ++ CType.longLong.text ++ ")") =
        some [.opening, .long, .long, .closing] := by decide
    exact ofText?_append_of_endsIn rfl cast ih
  | @binary op l r between left right ihl ihr =>
    have mark : ofText? (" " ++ (op.text ++ " ")) = some [.operator op] ∧
        Text.endsIn isLoose (" " ++ (op.text ++ " ")) ∧
        Text.startsIn isLoose (" " ++ (op.text ++ " ")) := by
      cases op <;> first | decide | exact absurd rfl between
    obtain ⟨operator, ends, starts⟩ := mark
    have text : (CExpr.binary op l r).text = l.text ++ (" " ++ (op.text ++ " ")) ++ r.text := by
      simp only [CExpr.text, String.append_assoc]
    have whole := ofText?_append_of_endsIn (Text.endsIn_append l.text ends)
      (ofText?_append_of_startsIn starts ihl operator) ihr
    rw [text, whole, List.append_assoc]
    rfl

theorem Readable.level_le (readable : e.Readable) (grouped : e.Grouped) {op : COperator}
    (member : .operator op ∈ e.tokens) : e.level ≤ op.level := by
  induction readable with
  | name x => simp [tokens] at member
  | literal value suffix => cases value <;> simp [tokens] at member
  | toSize operand ih | toLong operand ih =>
    exact Nat.le_trans grouped.1 (ih grouped.2 (by simpa [tokens] using member))
  | binary between left right ihl ihr =>
    obtain ⟨loose, tight, groupedLeft, groupedRight⟩ := grouped
    simp only [tokens, List.mem_append, List.mem_cons, CToken.operator.injEq] at member
    rcases member with inLeft | rfl | inRight
    · exact Nat.le_trans loose (ihl groupedLeft inLeft)
    · exact Nat.le_refl _
    · exact Nat.le_trans (Nat.le_of_lt tight) (ihr groupedRight inRight)

end CExpr

namespace CToken

variable {level levels : Nat} {xs ys : List CToken}

theorem cut_of_forall (others : ∀ op, operator op ∈ xs → op.level ≠ level) :
    cut level xs = (xs, []) := by
  induction xs with
  | nil => rfl
  | cons token xs ih =>
    have rest := ih fun op member => others op (List.mem_cons_of_mem _ member)
    cases token with
    | operator op => simp [cut, rest, others op List.mem_cons_self]
    | _ => simp [cut, rest]

theorem cut_append {op : COperator} (same : op.level = level)
    (others : ∀ op, operator op ∈ ys → op.level ≠ level) :
    cut level (xs ++ operator op :: ys) =
      ((cut level xs).1, (cut level xs).2 ++ [(op, ys)]) := by
  induction xs with
  | nil => simp [cut, cut_of_forall others, same]
  | cons token xs ih =>
    cases token with
    | operator op' =>
      by_cases here : op'.level = level <;> simp [cut, ih, here]
    | _ => simp [cut, ih]

theorem chain?_of_forall {read? : List CToken → Option CExpr}
    (others : ∀ op, operator op ∈ xs → op.level ≠ level) : chain? level read? xs = read? xs := by
  simp [chain?, cut_of_forall others]

-- The last operator of a level is the outermost one.
theorem chain?_append {read? : List CToken → Option CExpr} {op : COperator} {l r : CExpr}
    (same : op.level = level) (others : ∀ op, operator op ∈ ys → op.level ≠ level)
    (left : chain? level read? xs = some l) (right : read? ys = some r) :
    chain? level read? (xs ++ operator op :: ys) = some (.binary op l r) := by
  rw [chain?] at left ⊢
  obtain ⟨first, head, rest⟩ := Option.bind_eq_some_iff.1 left
  simp only [cut_append same others, head, Option.bind_eq_bind, Option.bind_some,
    List.foldlM_append, rest]
  simp [extend?, right]

theorem expression?_of_le {more : Nat} (le : levels ≤ more)
    (within : ∀ op, operator op ∈ xs → 6 ≤ op.level + levels) :
    expression? more xs = expression? levels xs := by
  induction le with
  | refl => rfl
  | @step more le ih =>
    have others : ∀ op, operator op ∈ xs → op.level ≠ 5 - more := by
      intro op member
      have := within op member
      have := op.level_pos
      have : levels ≤ more := le
      omega
    rw [expression?, chain?_of_forall others, ih]

end CToken

namespace CExpr

variable {e : CExpr}

theorem Readable.factor?_tokens (readable : e.Readable) (grouped : e.Grouped)
    (tight : 6 ≤ e.level) : factor? e.tokens = some e.spelled := by
  induction readable with
  | name x => rfl
  | literal value suffix => cases value <;> rfl
  | toSize operand ih | toLong operand ih =>
    rw [tokens, factor?, ih grouped.2 grouped.1]
    rfl
  | @binary op =>
    have := op.level_le
    exact absurd tight (by rw [level]; omega)

theorem Readable.expression?_of_tight (readable : e.Readable) (grouped : e.Grouped)
    (tight : 6 ≤ e.level) (levels : Nat) : expression? levels e.tokens = some e.spelled := by
  rw [expression?_of_le (Nat.zero_le levels) fun op member =>
    Nat.le_trans tight (readable.level_le grouped member)]
  exact readable.factor?_tokens grouped tight

-- Down to the level of an operator, the reader cuts its operands apart and reads the first one with
-- the same operators and the second one with tighter ones.
theorem Readable.expression?_tokens (readable : e.Readable) (grouped : e.Grouped) {levels : Nat}
    (enough : 6 ≤ e.level + levels) : expression? levels e.tokens = some e.spelled := by
  induction readable generalizing levels with
  | name x => exact (Readable.name x).expression?_of_tight grouped (Nat.le_succ 6) levels
  | literal value suffix =>
    refine (Readable.literal value suffix).expression?_of_tight grouped ?_ levels
    rw [level]
    split <;> decide
  | toSize operand => exact operand.toSize.expression?_of_tight grouped (Nat.le_refl 6) levels
  | toLong operand => exact operand.toLong.expression?_of_tight grouped (Nat.le_refl 6) levels
  | @binary op l r between left right ihl ihr =>
    have readable := Readable.binary between left right
    obtain ⟨loose, tight, groupedLeft, groupedRight⟩ := grouped
    have least := op.level_le
    have place : 5 - (5 - op.level) = op.level := by omega
    have above : ∀ op', CToken.operator op' ∈ r.tokens → op'.level ≠ op.level :=
      fun _ member same => Nat.not_le_of_lt tight (same ▸ right.level_le groupedRight member)
    have first : expression? (5 - op.level + 1) l.tokens = some l.spelled :=
      ihl groupedLeft (by omega)
    have second : expression? (5 - op.level) r.tokens = some r.spelled :=
      ihr groupedRight (by omega)
    have enough : 5 - op.level + 1 ≤ levels := by
      rw [level] at enough
      omega
    rw [expression?_of_le enough fun op' member => ?_]
    · rw [expression?, place] at first ⊢
      exact chain?_append rfl above first second
    · have := readable.level_le ⟨loose, tight, groupedLeft, groupedRight⟩ member
      rw [level] at this
      omega

theorem Readable.level_pos (readable : e.Readable) : 0 < e.level := by
  cases readable with
  | name | toSize | toLong => exact Nat.succ_pos _
  | literal value =>
    rw [level]
    split <;> exact Nat.succ_pos _
  | binary => exact COperator.level_pos _

theorem Readable.ofTokens?_tokens (readable : e.Readable) (grouped : e.Grouped) :
    ofTokens? e.tokens = some e.spelled :=
  readable.expression?_tokens grouped (Nat.add_le_add_right readable.level_pos 5)

-- The text of an expression is read as the expression itself, spelled with signs.
theorem Readable.read?_text (readable : e.Readable) (grouped : e.Grouped) :
    read? e.text = some e.spelled := by
  rw [read?, readable.ofText?_text]
  exact readable.ofTokens?_tokens grouped

theorem eval_spelled (env : CEnvironment) (e : CExpr) : e.spelled.eval env = e.eval env := by
  induction e with
  | literal value suffix =>
    cases value with
    | ofNat k => rfl
    | negSucc k =>
      have same : -suffix.integer.wrap ((k + 1 : Nat) : Int) ≡ Int.negSucc k
          [ZMOD suffix.integer.modulus] := (suffix.integer.wrap_modEq _).neg
      have promoted : suffix.integer.promote = suffix.integer := by cases suffix <;> rfl
      simpa [spelled, eval, CNumber.negate, promoted] using CInteger.wrap_eq_wrap same
  | leadingCast type e ih => simp [spelled, eval, ih]
  | binary op l r ihl ihr => simp [spelled, eval, ihl, ihr]
  | _ => rfl

end CExpr

end Strided
