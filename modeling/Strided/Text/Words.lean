import Mathlib.Data.List.Basic

/-! The words of a text: its longest runs of letters, digits and underscores. -/

set_option autoImplicit false

namespace Strided.Text

def isWordCharacter (c : Char) : Bool :=
  c.isAlphanum || c == '_'

def runs (cs : List Char) : List (List Char) :=
  (cs.splitOnP (!isWordCharacter ·)).filter (· ≠ [])

def words (s : String) : List String :=
  (runs s.toList).map String.ofList

def endsIn (p : Char → Bool) (s : String) : Bool :=
  s.toList.getLast?.any p

def startsIn (p : Char → Bool) (s : String) : Bool :=
  s.toList.head?.any p

/-- The text ends between words. -/
def opens (s : String) : Bool :=
  endsIn (!isWordCharacter ·) s

def closes (s : String) : Bool :=
  startsIn (!isWordCharacter ·) s

-- Runs come apart at any other character, and all else follows from that.
theorem runs_append_cons {c : Char} (apart : !isWordCharacter c) (before after : List Char) :
    runs (before ++ c :: after) = runs before ++ runs after := by
  rw [runs, List.splitOnP_append_cons before after apart, List.filter_append]
  rfl

theorem runs_cons {c : Char} (apart : !isWordCharacter c) (after : List Char) :
    runs (c :: after) = runs after :=
  runs_append_cons apart [] after

theorem runs_append_singleton {c : Char} (apart : !isWordCharacter c) (before : List Char) :
    runs (before ++ [c]) = runs before := by
  rw [runs_append_cons apart]
  exact List.append_nil _

theorem mem_of_mem_runs {cs w : List Char} (member : w ∈ runs cs) {c : Char} (inside : c ∈ w) :
    c ∈ cs := by
  replace member := List.mem_of_mem_filter member
  induction cs generalizing w with
  | nil =>
    rw [List.splitOnP_nil, List.mem_singleton] at member
    exact member ▸ inside
  | cons first rest ih =>
    obtain ⟨piece, pieces, split⟩ :=
      List.exists_cons_of_ne_nil (List.splitOnP_ne_nil (!isWordCharacter ·) rest)
    rw [List.splitOnP_cons_eq_if_modifyHead] at member
    split at member
    · rcases List.mem_cons.1 member with rfl | later
      · cases inside
      · exact List.mem_cons_of_mem _ (ih inside later)
    · rw [split, List.modifyHead_cons] at member
      rcases List.mem_cons.1 member with rfl | later
      · rcases List.mem_cons.1 inside with rfl | inside
        · exact List.mem_cons_self
        · exact List.mem_cons_of_mem _ (ih inside (split ▸ List.mem_cons_self))
      · exact List.mem_cons_of_mem _ (ih inside (split ▸ List.mem_cons_of_mem _ later))

theorem words_append_of_closes (a : String) {b : String} (closed : closes b) :
    words (a ++ b) = words a ++ words b := by
  rw [closes, startsIn, Option.any_eq_true] at closed
  obtain ⟨c, first, apart⟩ := closed
  obtain ⟨rest, text⟩ := List.head?_eq_some_iff.1 first
  rw [words, words, words, String.toList_append, text, runs_append_cons apart, runs_cons apart,
    List.map_append]

theorem words_append_of_opens {a : String} (opened : opens a) (b : String) :
    words (a ++ b) = words a ++ words b := by
  rw [opens, endsIn, Option.any_eq_true] at opened
  obtain ⟨c, last, apart⟩ := opened
  obtain ⟨rest, text⟩ := List.getLast?_eq_some_iff.1 last
  rw [words, words, words, String.toList_append, text, List.append_assoc, List.singleton_append,
    runs_append_cons apart, runs_append_singleton apart, List.map_append]

theorem endsIn_append {p : Char → Bool} (a : String) {b : String} (ends : endsIn p b) :
    endsIn p (a ++ b) := by
  rw [endsIn, Option.any_eq_true] at ends ⊢
  obtain ⟨c, last, holds⟩ := ends
  refine ⟨c, ?_, holds⟩
  rw [String.toList_append, List.getLast?_append, last, Option.some_or]

theorem startsIn_append {p : Char → Bool} {a : String} (starts : startsIn p a) (b : String) :
    startsIn p (a ++ b) := by
  rw [startsIn, Option.any_eq_true] at starts ⊢
  obtain ⟨c, first, holds⟩ := starts
  refine ⟨c, ?_, holds⟩
  rw [String.toList_append, List.head?_append, first, Option.some_or]

theorem opens_append (a : String) {b : String} (opened : opens b) : opens (a ++ b) :=
  endsIn_append a opened

-- A text of word characters only is one word.
theorem words_of_forall {s : String} (nonempty : s ≠ "")
    (all : ∀ c ∈ s.toList, isWordCharacter c) : words s = [s] := by
  have single : s.toList.splitOnP (!isWordCharacter ·) = [s.toList] :=
    List.splitOnP_eq_singleton fun c member => by simp [all c member]
  simp [words, runs, single, nonempty]

theorem mem_of_mem_words {s w : String} (member : w ∈ words s) {c : Char}
    (inside : c ∈ w.toList) : c ∈ s.toList := by
  obtain ⟨run, found, rfl⟩ := List.mem_map.1 member
  rw [String.toList_ofList] at inside
  exact mem_of_mem_runs found inside

end Strided.Text
