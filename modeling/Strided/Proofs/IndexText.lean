import Strided.Proofs.IndexWalk
import Strided.Proofs.Rereading

/-! The text of index code.

Around any body the text is the same, and what is written before and after the body is read as the
code that it was written from. Therefore what was found out about the code holds of its text.
-/

set_option autoImplicit false

namespace Strided

open CToken

theorem splitOn_of_notMem {sep : CToken} {xs : List CToken} (free : sep ∉ xs) :
    xs.splitOn sep = [xs] := by
  refine List.splitOnP_eq_singleton fun x member => ?_
  rw [beq_eq_false_iff_ne]
  rintro rfl
  exact free member

theorem splitOn_append_cons {sep : CToken} {xs : List CToken} (free : sep ∉ xs)
    (ys : List CToken) : (xs ++ sep :: ys).splitOn sep = xs :: ys.splitOn sep := by
  have cut := List.splitOnP_append_cons (p := (· == sep)) xs ys (beq_self_eq_true sep)
  have single := splitOn_of_notMem free
  rw [List.splitOn] at single ⊢
  rw [cut, single]
  rfl

namespace CExpr

variable {e l r : CExpr}

/-- The text of the expression is read as the expression itself. -/
structure Faithful (e : CExpr) : Prop where
  readable : e.Readable
  grouped : e.Grouped
  spelled : e.spelled = e

theorem Faithful.ofTokens?_tokens (faithful : e.Faithful) : ofTokens? e.tokens = some e := by
  rw [faithful.readable.ofTokens?_tokens faithful.grouped, faithful.spelled]

theorem faithful_name (x : CName) : (name x).Faithful :=
  ⟨.name x, trivial, rfl⟩

theorem faithful_number (k : Nat) (suffix : CSuffix) : (literal k suffix).Faithful :=
  ⟨.literal k suffix, trivial, rfl⟩

theorem Faithful.toSize (faithful : e.Faithful) (tight : 6 ≤ e.level) :
    (leadingCast .sizeT e).Faithful :=
  ⟨.toSize faithful.readable, ⟨tight, faithful.grouped⟩, by rw [CExpr.spelled, faithful.spelled]⟩

theorem Faithful.binary {op : COperator} (between : op ≠ .sub) (left : l.Faithful)
    (right : r.Faithful) (loose : op.level ≤ l.level) (tight : op.level < r.level) :
    (CExpr.binary op l r).Faithful :=
  ⟨.binary between left.readable right.readable, ⟨loose, tight, left.grouped, right.grouped⟩,
    by rw [CExpr.spelled, left.spelled, right.spelled]⟩

theorem Readable.separators (readable : e.Readable) :
    CToken.semicolon ∉ e.tokens ∧ CToken.blockOpening ∉ e.tokens := by
  induction readable with
  | name x => simp [tokens]
  | literal value suffix => cases value <;> simp [tokens]
  | toSize operand ih | toLong operand ih => simpa [tokens] using ih
  | binary between left right ihl ihr => simp [tokens, ihl, ihr]

end CExpr

namespace CStatement

def expr : CStatement → CExpr
  | constant _ e | declare _ e | divideBy _ e | returnIf e => e

/-- The tokens of a statement, without the semicolon after it. -/
def tokens : CStatement → List CToken
  | constant x e => .const :: .sizeT :: .name x :: .assign :: e.tokens
  | declare x e => .sizeT :: .name x :: .assign :: e.tokens
  | divideBy x e => .name x :: .divideAssign :: e.tokens
  | returnIf test => .ifTest :: .opening :: (test.tokens ++ [.closing, .leave])

variable {s : CStatement} (faithful : s.expr.Faithful)
include faithful

theorem ofText?_text : ofText? s.text = some (s.tokens ++ [.semicolon]) := by
  have written := faithful.readable.ofText?_text
  have stop : ofText? ";" = some [.semicolon] := by decide
  cases s with
  | constant x e =>
    have head := ofText?_between (s := x.text) (a := "const size_t ") (b := " = ") rfl rfl
      (by decide : _ = some [.const, .sizeT]) (ofText?_name x) (by decide : _ = some [.assign])
    exact ofText?_between (Text.endsIn_append _ rfl) rfl head written stop
  | declare x e =>
    have head := ofText?_between (s := x.text) (a := "size_t ") (b := " = ") rfl rfl
      (by decide : _ = some [.sizeT]) (ofText?_name x) (by decide : _ = some [.assign])
    exact ofText?_between (Text.endsIn_append _ rfl) rfl head written stop
  | divideBy x e =>
    have head := ofText?_append_of_startsIn (b := " /= ") rfl (ofText?_name x)
      (by decide : _ = some [.divideAssign])
    exact ofText?_between (Text.endsIn_append _ rfl) rfl head written stop
  | returnIf test =>
    have whole := ofText?_between (a := "if (") (b := ") return;") rfl rfl
      (by decide : _ = some [.ifTest, .opening]) written
      (by decide : _ = some [.closing, .leave, .semicolon])
    refine whole.trans ?_
    simp [tokens, expr]

theorem ofTokens?_tokens : ofTokens? s.tokens = some s := by
  have read := faithful.ofTokens?_tokens
  cases s with
  | constant x e | declare x e | divideBy x e =>
    rw [expr] at read
    simp [tokens, ofTokens?, read]
  | returnIf test =>
    rw [expr] at read
    simp [tokens, ofTokens?, read]

theorem separators : CToken.semicolon ∉ s.tokens ∧ CToken.blockOpening ∉ s.tokens := by
  have free := faithful.readable.separators
  cases s <;> simpa [tokens, expr] using free

omit faithful

/-- The tokens of statements with a semicolon after each. -/
def allTokens (statements : List CStatement) : List CToken :=
  statements.flatMap fun s => s.tokens ++ [.semicolon]

section
variable {statements : List CStatement} (each : ∀ s ∈ statements, s.expr.Faithful)
include each

theorem splitOn_allTokens :
    (allTokens statements).splitOn .semicolon = statements.map tokens ++ [[]] := by
  induction statements with
  | nil => rfl
  | cons s rest ih =>
    obtain ⟨first, others⟩ := List.forall_mem_cons.1 each
    have parts : allTokens (s :: rest) = s.tokens ++ .semicolon :: allTokens rest := by
      simp [allTokens]
    rw [parts, splitOn_append_cons (separators first).1, ih others]
    rfl

theorem allOfTokens?_allTokens : allOfTokens? (allTokens statements) = some statements := by
  rw [allOfTokens?, splitOn_allTokens each, List.reverse_append]
  have read : (statements.map tokens).mapM ofTokens? = some (statements.map id) := by
    rw [List.mapM_map]
    exact mapM_eq_some_map fun s member => ofTokens?_tokens (each s member)
  simpa using read

theorem blockOpening_notMem_allTokens : CToken.blockOpening ∉ allTokens statements := by
  simp only [allTokens, List.mem_flatMap, not_exists, not_and]
  intro s member
  simp [(separators (each s member)).2]

theorem ofText?_line :
    ofText? (String.intercalate " " (statements.map text)) = some (allTokens statements) := by
  induction statements with
  | nil => decide
  | cons s rest ih =>
    obtain ⟨first, others⟩ := List.forall_mem_cons.1 each
    have written := ofText?_text first
    have parts : allTokens (s :: rest) = s.tokens ++ [.semicolon] ++ allTokens rest := by
      simp [allTokens]
    cases rest with
    | nil => simpa [allTokens] using written
    | cons s' rest =>
      have blank : ofText? " " = some [] := by decide
      rw [List.map_cons, List.map_cons, String.intercalate_cons_cons, ← List.map_cons, parts]
      simpa using ofText?_append_of_endsIn (Text.endsIn_append s.text rfl)
        (ofText?_append_of_startsIn rfl written blank) (ih others)

end

end CStatement

namespace CLoop

/-- What a loop writes in front of its block. -/
def tokens (l : CLoop) : List CToken :=
  .forLoop :: .opening :: (CStatement.declare l.counter l.start).tokens ++ .semicolon ::
    (l.test.tokens ++ .semicolon :: .name l.counter :: .addAssign :: (l.step.tokens ++ [.closing]))

structure Faithful (l : CLoop) : Prop where
  start : l.start.Faithful
  test : l.test.Faithful
  step : l.step.Faithful

variable {l : CLoop} (faithful : l.Faithful)
include faithful

theorem ofText?_text : ofText? l.text = some l.tokens := by
  have blank : ofText? " " = some [] := by decide
  have head := ofText?_append_of_endsIn (a := "for (") rfl
    (by decide : _ = some [.forLoop, .opening])
    (CStatement.ofText?_text (s := .declare l.counter l.start) faithful.start)
  have guard := ofText?_between (a := " ") (b := "; ") rfl rfl blank
    faithful.test.readable.ofText?_text (by decide : _ = some [.semicolon])
  have more := ofText?_between (a := " += ") (b := ")") rfl rfl
    (by decide : _ = some [.addAssign]) faithful.step.readable.ofText?_text
    (by decide : _ = some [.closing])
  have text : l.text = "for (" ++ (CStatement.declare l.counter l.start).text ++
      (" " ++ l.test.text ++ "; ") ++ l.counter.text ++ (" += " ++ l.step.text ++ ")") := by
    have opening (s : String) : "for (size_t " ++ s = "for (" ++ ("size_t " ++ s) := by
      rw [← String.append_assoc]
      congr 1
    have stop (s : String) : "; " ++ s = ";" ++ (" " ++ s) := by
      rw [← String.append_assoc]
      congr 1
    unfold CLoop.text CStatement.text
    simp only [String.append_assoc]
    rw [opening, stop]
  have before := ofText?_append_of_startsIn
    (Text.startsIn_append (Text.startsIn_append rfl l.test.text) "; ") head guard
  have counter := ofText?_append_of_endsIn (Text.endsIn_append _ (Text.endsIn_append _ rfl)) before
    (ofText?_name l.counter)
  have whole := ofText?_append_of_startsIn
    (Text.startsIn_append (Text.startsIn_append rfl l.step.text) ")") counter more
  rw [text, whole]
  simp [tokens]

theorem ofTokens?_tokens : ofTokens? l.tokens = some l := by
  have start := CStatement.ofTokens?_tokens (s := .declare l.counter l.start) faithful.start
  have free := (CStatement.separators (s := .declare l.counter l.start) faithful.start).1
  have parts : l.tokens.splitOn .semicolon =
      [.forLoop :: .opening :: (CStatement.declare l.counter l.start).tokens, l.test.tokens,
        .name l.counter :: .addAssign :: (l.step.tokens ++ [.closing])] := by
    rw [tokens, splitOn_append_cons (by simpa using free),
      splitOn_append_cons faithful.test.readable.separators.1,
      splitOn_of_notMem (by simpa using faithful.step.readable.separators.1)]
  simp [ofTokens?, parts, start, faithful.test.ofTokens?_tokens, faithful.step.ofTokens?_tokens]

theorem blockOpening_notMem_tokens : CToken.blockOpening ∉ l.tokens := by
  have start := (CStatement.separators (s := .declare l.counter l.start) faithful.start).2
  simp [tokens, start, faithful.test.readable.separators.2, faithful.step.readable.separators.2]

end CLoop

namespace IndexCode

/-- The lines of statements, up to where the body is written. -/
def written (indent : String) (lines : List (List CStatement)) : String :=
  String.join (lines.map fun line =>
    indent ++ String.intercalate " " (line.map CStatement.text) ++ "\n") ++ indent

theorem ofText?_written {indent : String} (blank : ofText? indent = some [])
    (starts : Text.startsIn isLoose indent) (ends : Text.endsIn isLoose indent)
    {lines : List (List CStatement)} (each : ∀ s ∈ lines.flatten, s.expr.Faithful) :
    ofText? (written indent lines) = some (CStatement.allTokens lines.flatten) := by
  have newline : ofText? "\n" = some [] := by decide
  have inLines : ofText? (String.join (lines.map fun line =>
      indent ++ String.intercalate " " (line.map CStatement.text) ++ "\n")) =
      some (CStatement.allTokens lines.flatten) := by
    induction lines with
    | nil => exact (by decide : ofText? "" = some [])
    | cons line lines ih =>
      rw [List.flatten_cons, List.forall_mem_append] at each
      have first := ofText?_between ends (b := "\n") rfl blank (CStatement.ofText?_line each.1)
        newline
      rw [List.map_cons, String.join_cons,
        ofText?_append_of_endsIn (Text.endsIn_append _ rfl) first (ih each.2)]
      simp [CStatement.allTokens]
  rw [written, ofText?_append_of_startsIn starts inLines blank, List.append_nil]

/-- Everything that is written in the code is read as what it was written from. -/
structure Faithful (code : IndexCode) : Prop where
  loop : ∀ l ∈ code.loop, l.Faithful
  statements : ∀ s ∈ code.lines.flatten, s.expr.Faithful

/-- The code with its statements in one line. -/
def joined (code : IndexCode) : IndexCode :=
  ⟨code.loop, [code.lines.flatten]⟩

-- The body stands between two texts that do not depend on it, and they are read as the code.
theorem Faithful.exists_read {code : IndexCode} (faithful : code.Faithful) :
    ∃ head tail, (∀ body, code.text body = head ++ body ++ tail) ∧
      read? head tail = some code.joined := by
  obtain ⟨loop, lines⟩ := code
  obtain ⟨framed, each⟩ := faithful
  have parsed := CStatement.allOfTokens?_allTokens each
  have free := CStatement.blockOpening_notMem_allTokens each
  cases loop with
  | none =>
    have block : ofText? (written "    " lines) = _ := ofText?_written (by decide) rfl rfl each
    have none : ofText? "" = some [] := by decide
    refine ⟨written "    " lines, "", fun body => ?_, ?_⟩
    · simp [text, written]
    · simp [read?, block, none, splitOn_of_notMem free, parsed, joined]
  | some l =>
    have block : ofText? (written "        " lines) = _ :=
      ofText?_written (by decide) rfl rfl each
    have close : ofText? "\n    \x7d" = some [.blockClosing] := by decide
    have framed := framed l rfl
    have front := ofText?_between (a := "    ") (b := " \x7b\n") rfl rfl (by decide : _ = some [])
      (CLoop.ofText?_text framed) (by decide : _ = some [.blockOpening])
    have head := ofText?_append_of_endsIn (Text.endsIn_append _ rfl) front block
    have parts : ([] ++ l.tokens ++ [blockOpening] ++ CStatement.allTokens lines.flatten).splitOn
        blockOpening = [l.tokens, CStatement.allTokens lines.flatten] := by
      rw [List.nil_append, List.append_assoc, List.singleton_append,
        splitOn_append_cons (CLoop.blockOpening_notMem_tokens framed), splitOn_of_notMem free]
    refine ⟨"    " ++ l.text ++ " \x7b\n" ++ written "        " lines, "\n    \x7d",
      fun body => ?_, ?_⟩
    · simp only [text, written, String.append_assoc]
    · simp only [read?, head, close, Option.bind_eq_bind, Option.bind_some, parts,
        CLoop.ofTokens?_tokens framed, parsed]
      rfl

theorem Runs.joined {code : IndexCode} {env : CEnvironment} {bodies : List CEnvironment}
    (runs : code.Runs env bodies) : code.joined.Runs env bodies := by
  cases runs with
  | body done => exact .body (by simpa using done)
  | exit left => exact .exit (by simpa using left)
  | loop start rounds => exact .loop start (by simpa using rounds)

theorem level_literal (k : Nat) : (literal k).level = 7 := by
  rw [literal, CExpr.level, if_neg (Int.not_lt.2 (Int.natCast_nonneg k))]

theorem faithful_literal (k : Nat) : (literal k).Faithful :=
  CExpr.faithful_number k .unsignedLongLong

/-- A name and an extent with an operator between them. -/
theorem faithful_operator (op : COperator) (between : op ≠ .sub) (x : CName) (k : Nat) :
    (CExpr.binary op (.name x) (literal k)).Faithful := by
  have below : op.level < 7 := Nat.lt_succ_of_le (Nat.le_succ_of_le op.level_le)
  refine .binary between (CExpr.faithful_name x) (faithful_literal k) (Nat.le_of_lt below) ?_
  rwa [level_literal]

/-- A product of two names, of which the first is converted. -/
theorem faithful_product (x y : CName) :
    (CExpr.binary .mul (.leadingCast .sizeT (.name x)) (.name y)).Faithful :=
  .binary nofun ((CExpr.faithful_name x).toSize (Nat.le_succ 6)) (CExpr.faithful_name y)
    (Nat.le_succ 5) (by decide : 5 < 7)

theorem faithful_lane (a : GridAxis) : (IndexCode.lane a).Faithful :=
  .binary nofun (faithful_product _ _) (CExpr.faithful_name _) (Nat.le_succ 4)
    (by decide : 4 < 7)

theorem faithful_splitAll (x : CName) (dim : Nat) (es : List Nat) :
    ∀ s ∈ (splitAll x dim es).flatten, s.expr.Faithful := by
  induction es generalizing dim with
  | nil => exact List.forall_mem_nil _
  | cons extent es ih =>
    rw [splitAll, List.flatten_cons, List.forall_mem_append]
    refine ⟨?_, ih (dim + 1)⟩
    simp only [splitOff, List.forall_mem_cons]
    exact ⟨faithful_operator .rem (by decide) x extent, faithful_literal extent,
      List.forall_mem_nil _⟩

theorem faithful_linear (es : List Nat) : (linear es).Faithful where
  loop := by
    intro l member
    obtain rfl := Option.some.inj member
    exact ⟨faithful_lane .x, faithful_operator .less nofun .element _, faithful_product _ _⟩
  statements := by
    rw [linear, List.flatten_cons, List.singleton_append, List.forall_mem_cons]
    exact ⟨CExpr.faithful_name .element, faithful_splitAll .rest 0 es⟩

theorem faithful_guard (d d' e e' : Nat) :
    (CExpr.binary .or (outside d e) (outside d' e')).Faithful :=
  .binary nofun (faithful_operator .atLeast nofun _ e) (faithful_operator .atLeast nofun _ e')
    (by decide : 1 ≤ 3) (by decide : 1 < 3)

theorem faithful_tiled (es : List Nat) : (tiled es).Faithful := by
  match es with
  | [] => exact ⟨nofun, nofun⟩
  | [e] =>
    refine ⟨nofun, ?_⟩
    simp only [tiled, List.flatten_cons, List.cons_append, List.nil_append, List.forall_mem_cons]
    exact ⟨faithful_lane .x, faithful_operator .atLeast nofun _ e, nofun⟩
  | e₀ :: e₁ :: outer =>
    refine ⟨nofun, ?_⟩
    have counter : ∀ s ∈ (if outer = [] then []
        else [[CStatement.declare .outer (.name (.blockIdx .z))]]).flatten, s.expr.Faithful := by
      split
      · nofun
      · simpa [CStatement.expr] using CExpr.faithful_name (.blockIdx .z)
    simp only [tiled, List.flatten_append, List.forall_mem_append]
    refine ⟨⟨?_, counter⟩, faithful_splitAll .outer 2 outer⟩
    simp only [List.flatten_cons, List.cons_append, List.nil_append, List.forall_mem_cons]
    exact ⟨faithful_lane .x, faithful_lane .y, faithful_guard 0 1 e₀ e₁, nofun⟩

theorem faithful_indexCode {n : Nat} (p : LaunchPlan n) : p.indexCode.Faithful := by
  unfold LaunchPlan.indexCode
  split
  · exact faithful_linear _
  · exact faithful_tiled _
  · exact faithful_tiled _

end IndexCode

namespace LaunchPlan

variable {n : Nat}

/-- Under valid settings every shape whose elements can be counted has a plan. Its index code puts a
body between two texts that are read as code, and this code has one run in every lane of every block
of the grid: the body finds the indices that the walk of the block visits for that lane, in the same
order. -/
theorem indexCode_walks (s : Shape n) {c : ExecConfig} (small : s.size < 2 ^ 63)
    (valid : c.validate = .ok ()) :
    ∃ p head tail code, ofShape? s c = some p ∧
      (∀ body, p.indexCode.text body = head ++ body ++ tail) ∧
      IndexCode.read? head tail = some code ∧
      ∀ block : Dim3, block.Below p.grid →
        (p.blockIndices block = (List.range p.block.y.toNat).flatMap fun ty =>
          (List.range p.block.x.toNat).flatMap fun tx => p.laneIndices block tx ty) ∧
        ∀ (lane : Dim3) (env : CEnvironment), ∃ bodies,
          code.Runs (env.atLane p block lane) bodies ∧
          (∀ others, code.Runs (env.atLane p block lane) others → others = bodies) ∧
          List.Forall₂ (fun body i => env.Binds i.toList body) bodies
            (p.laneIndices block lane.x.toNat lane.y.toNat) := by
  have valid := ExecConfig.validate_eq_ok_iff.1 valid
  obtain ⟨p, found, planned⟩ := exists_planned valid s
  obtain ⟨head, tail, text, read⟩ := (IndexCode.faithful_indexCode p).exists_read
  refine ⟨p, head, tail, _, found, text, read, fun block inside => ?_⟩
  have filled := planned.filled valid inside
  have counted : p.shape.size ≠ 0 := planned.shape_eq ▸ filled
  have limit : p.shape.size < 2 ^ 63 := planned.shape_eq ▸ small
  refine ⟨if_neg counted, fun lane env => ?_⟩
  have walk : ∃ bodies, p.indexCode.Runs (env.atLane p block lane) bodies ∧
      List.Forall₂ (fun body i => env.Binds i.toList body) bodies
        (p.laneIndices block lane.x.toNat lane.y.toNat) := by
    rcases planned.lined_or_tiled valid filled with lined | tiled
    · exact lined.exists_runs counted limit env block lane (planned.narrow valid)
    · exact tiled.exists_runs counted limit env block lane
  obtain ⟨bodies, runs, bound⟩ := walk
  exact ⟨bodies, runs.joined, fun others others_runs => others_runs.unique runs.joined, bound⟩

/-- Of fifteen elements in two blocks of three lanes, the third lane of the second block comes past
those numbered 5 and 11. -/
theorem indexCode_walks_cappedLine :
    (⟨#v[5, 3]⟩ : Shape 2).size < 2 ^ 63 ∧ cappedLine.validate = .ok () ∧
      ∃ p head tail code, ofShape? (⟨#v[5, 3]⟩ : Shape 2) cappedLine = some p ∧
        p.indexCode.text "out = 7;" = head ++ "out = 7;" ++ tail ∧
        IndexCode.read? head tail = some code ∧
        ∀ env : CEnvironment, ∃ bodies, code.Runs (env.atLane p ⟨1, 0, 0⟩ ⟨2, 0, 0⟩) bodies ∧
          List.Forall₂ (fun body is => env.Binds is body) bodies [[0, 1], [1, 2]] := by
  have small : (⟨#v[5, 3]⟩ : Shape 2).size < 2 ^ 63 := by decide
  have valid : cappedLine.validate = .ok () := rfl
  obtain ⟨p, head, tail, code, found, text, read, walks⟩ := indexCode_walks ⟨#v[5, 3]⟩ small valid
  refine ⟨small, valid, p, head, tail, code, found, text _, read, fun env => ?_⟩
  cases found
  have inside : (⟨1, 0, 0⟩ : Dim3).Below ⟨2, 1, 1⟩ := ⟨by decide, by decide, by decide⟩
  obtain ⟨bodies, runs, -, bound⟩ := (walks ⟨1, 0, 0⟩ inside).2 ⟨2, 0, 0⟩ env
  have mapped : [[0, 1], [1, 2]] = ([#v[0, 1], #v[1, 2]] : List (Index 2)).map Vector.toList := rfl
  exact ⟨bodies, runs, mapped ▸ List.forall₂_map_right_iff.2 bound⟩

end LaunchPlan

end Strided
