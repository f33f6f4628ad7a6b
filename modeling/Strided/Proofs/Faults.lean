import Strided.Proofs.Calculating

/-! Which slicing requests are turned down, and for what.

`Faulty` says what is wrong with an entry without slicing anything, and `FirstFault` which
dimension comes first among those whose entries are faulty. A request fails with that fault, unless
it has too many entries to begin with, and else it fails only if it leaves another rank than the
one that was asked for.
-/

set_option autoImplicit false

namespace Strided

namespace Slice

/-- The entry for a dimension of the array. A new axis is for none. -/
def entryFor? (entries : List Slice) (d : Nat) : Option Slice :=
  (entries.filter takesAxis)[d]?

/-- The entry fixes a dimension at one position. -/
def fixesAxis : Slice → Bool
  | index _ => true
  | _ => false

/-- What is wrong with an entry for a dimension of some extent. -/
inductive Faulty (extent : Nat) : Slice → SliceFault → Prop where
  | outside {p : Int} (outside : p < -extent ∨ extent ≤ p) :
    Faulty extent (index p) (.outOfRange (fromStart extent p) extent)
  | still (start stop : Option Int) : Faulty extent (range start stop 0) .zeroStep

def FaultAt (es : List Nat) (entries : List Slice) (d : Nat) (fault : SliceFault) : Prop :=
  ∃ extent entry, es[d]? = some extent ∧ entryFor? entries d = some entry ∧
    Faulty extent entry fault

/-- The entry for a dimension is faulty, and those for the dimensions before are not. -/
def FirstFault (es : List Nat) (entries : List Slice) (d : Nat) (fault : SliceFault) : Prop :=
  FaultAt es entries d fault ∧ ∀ d' < d, ∀ other, ¬ FaultAt es entries d' other

def Faultless (es : List Nat) (entries : List Slice) : Prop :=
  ∀ d fault, ¬ FaultAt es entries d fault

/-- The rank that entries leave of an array. -/
def rankLeft (rank : Nat) (entries : List Slice) : Nat :=
  rank - entries.countP fixesAxis + entries.count newAxis

theorem not_faulty_range {extent : Nat} {start stop : Option Int} {step : Int} (moves : step ≠ 0)
    (fault : SliceFault) : ¬ Faulty extent (range start stop step) fault := by
  rintro ⟨⟩
  exact moves rfl

theorem onAxis_eq_error_iff (dim : Nat) {a : Axis} {entry : Slice} {e : Error} :
    entry.onAxis dim a = .error e ↔
      ∃ fault, Faulty a.extent entry fault ∧ e = .invalidSlice dim fault := by
  cases entry with
  | all | newAxis =>
    simp only [onAxis, reduceCtorEq, false_iff]
    rintro ⟨fault, ⟨⟩, -⟩
  | index p =>
    rw [onAxis]
    split
    · rename_i inside
      simp only [reduceCtorEq, false_iff]
      rintro ⟨fault, ⟨outside⟩, -⟩
      unfold fromStart at inside
      split at inside <;> omega
    · rename_i beyond
      have outside : p < -a.extent ∨ a.extent ≤ p := by
        unfold fromStart at beyond
        split at beyond <;> omega
      constructor
      · intro same
        exact ⟨_, .outside outside, (Except.error.inj same).symm⟩
      · rintro ⟨fault, ⟨-⟩, rfl⟩
        rfl
  | range start stop step =>
    rw [onAxis]
    split
    · rename_i still
      subst still
      constructor
      · intro same
        exact ⟨_, .still start stop, (Except.error.inj same).symm⟩
      · rintro ⟨fault, ⟨⟩, rfl⟩
        rfl
    · rename_i moves
      simp only [reduceCtorEq, false_iff]
      rintro ⟨fault, faulty, -⟩
      exact not_faulty_range moves fault faulty

theorem exists_onAxis_eq_ok_iff (dim : Nat) {a : Axis} {entry : Slice} :
    (∃ r, entry.onAxis dim a = .ok r) ↔ ∀ fault, ¬ Faulty a.extent entry fault := by
  constructor
  · rintro ⟨r, fine⟩ fault faulty
    have failed := (onAxis_eq_error_iff dim).2 ⟨fault, faulty, rfl⟩
    rw [fine] at failed
    cases failed
  · intro faultless
    cases sliced : entry.onAxis dim a with
    | ok r => exact ⟨r, rfl⟩
    | error e =>
      obtain ⟨fault, faulty, -⟩ := (onAxis_eq_error_iff dim).1 sliced
      exact absurd faulty (faultless fault)

section
variable {es : List Nat} {entries : List Slice} {d : Nat} {fault : SliceFault}

theorem not_faultAt_nil : ¬ FaultAt es [] d fault := by
  rintro ⟨extent, entry, -, found, -⟩
  cases found

@[simp] theorem firstFault_newAxis :
    FirstFault es (newAxis :: entries) d fault ↔ FirstFault es entries d fault := Iff.rfl

variable {entry : Slice} {e : Nat}

theorem faultAt_zero (takes : entry.takesAxis = true) :
    FaultAt (e :: es) (entry :: entries) 0 fault ↔ Faulty e entry fault := by
  simp [FaultAt, entryFor?, takes]

theorem faultAt_succ (takes : entry.takesAxis = true) :
    FaultAt (e :: es) (entry :: entries) (d + 1) fault ↔ FaultAt es entries d fault := by
  simp [FaultAt, entryFor?, takes]

theorem firstFault_zero (takes : entry.takesAxis = true) :
    FirstFault (e :: es) (entry :: entries) 0 fault ↔ Faulty e entry fault := by
  simp [FirstFault, faultAt_zero takes]

theorem firstFault_succ (takes : entry.takesAxis = true) :
    FirstFault (e :: es) (entry :: entries) (d + 1) fault ↔
      (∀ other, ¬ Faulty e entry other) ∧ FirstFault es entries d fault := by
  have before : (∀ d' < d + 1, ∀ other, ¬ FaultAt (e :: es) (entry :: entries) d' other) ↔
      (∀ other, ¬ Faulty e entry other) ∧ ∀ d' < d, ∀ other, ¬ FaultAt es entries d' other := by
    rw [Nat.forall_lt_succ_left]
    simp only [faultAt_zero takes, faultAt_succ takes]
  rw [FirstFault, before, faultAt_succ takes, FirstFault]
  tauto

end

theorem onAxes_cons_eq_error_iff {entry : Slice} (axis : entry ≠ newAxis) {dim : Nat}
    {entries : List Slice} {a : Axis} {axes : List Axis} {e : Error} :
    onAxes dim (entry :: entries) (a :: axes) = .error e ↔
      entry.onAxis dim a = .error e ∨
        (∃ r, entry.onAxis dim a = .ok r) ∧ onAxes (dim + 1) entries axes = .error e := by
  rw [onAxes_cons axis, Outcome.bind_eq_error_iff, ← exists_and_right]
  refine or_congr_right (exists_congr fun r => and_congr_right fun _ => ?_)
  rw [Outcome.bind_eq_error_iff]
  simp [pure, Except.pure]

-- The faults of a request are those of its entries, from left to right.
theorem onAxes_eq_error_iff (dim : Nat) {entries : List Slice} {axes : List Axis}
    (enough : entries.countP takesAxis ≤ axes.length) {e : Error} :
    onAxes dim entries axes = .error e ↔
      ∃ d fault, FirstFault (axes.map Axis.extent) entries d fault ∧
        e = .invalidSlice (dim + d) fault := by
  induction entries generalizing dim axes with
  | nil =>
    simp only [onAxes, reduceCtorEq, false_iff]
    rintro ⟨d, fault, first, -⟩
    exact not_faultAt_nil first.1
  | cons entry entries ih =>
    by_cases axis : entry = newAxis
    · subst axis
      have enough : entries.countP takesAxis ≤ axes.length := by simpa [takesAxis] using enough
      rw [onAxes, Outcome.bind_eq_error_iff, ih dim enough]
      simp [pure, Except.pure]
    · have takes := takesAxis_of_ne axis
      rw [List.countP_cons_of_pos takes] at enough
      cases axes with
      | nil => simp at enough
      | cons a axes =>
        have enough : entries.countP takesAxis ≤ axes.length := by simpa using enough
        rw [onAxes_cons_eq_error_iff axis, onAxis_eq_error_iff, exists_onAxis_eq_ok_iff,
          ih (dim + 1) enough]
        constructor
        · rintro (⟨fault, faulty, rfl⟩ | ⟨faultless, d, fault, first, rfl⟩)
          · exact ⟨0, fault, (firstFault_zero takes).2 faulty, rfl⟩
          · exact ⟨d + 1, fault, (firstFault_succ takes).2 ⟨faultless, first⟩,
              by rw [Nat.add_assoc, Nat.add_comm 1]⟩
        · rintro ⟨_ | d, fault, first, rfl⟩
          · exact Or.inl ⟨fault, (firstFault_zero takes).1 first, rfl⟩
          · obtain ⟨faultless, first⟩ := (firstFault_succ takes).1 first
            exact Or.inr ⟨faultless, d, fault, first, by rw [Nat.add_assoc, Nat.add_comm 1]⟩

theorem length_of_onAxis {dim : Nat} {a : Axis} {entry : Slice} {head : Option Axis} {near : Int}
    (takes : entry.takesAxis = true) (ok : entry.onAxis dim a = .ok (head, near)) :
    head.toList.length + [entry].countP fixesAxis = 1 := by
  have kept := (onAxis_eq_ok ok).1
  cases entry with
  | newAxis => cases takes
  | all | range | index => cases head <;> simp_all [keptExtent, fixesAxis]

-- A fixed dimension is dropped, and a new axis is added.
theorem length_of_onAxes {dim : Nat} {entries : List Slice} {axes kept : List Axis} {distance : Int}
    (ok : onAxes dim entries axes = .ok (kept, distance)) :
    kept.length + entries.countP fixesAxis = axes.length + entries.count newAxis := by
  induction entries generalizing dim axes kept distance with
  | nil =>
    obtain ⟨rfl, -⟩ := Prod.mk.inj (Except.ok.inj ok)
    rfl
  | cons entry entries ih =>
    by_cases axis : entry = newAxis
    · subst axis
      obtain ⟨⟨rest, far⟩, found, ok⟩ := Outcome.bind_eq_ok_iff.1 ok
      obtain ⟨rfl, -⟩ := Prod.mk.inj (Except.ok.inj ok)
      have others := ih found
      rw [List.length_cons, List.countP_cons_of_neg (by decide), List.count_cons_self]
      omega
    · have takes := takesAxis_of_ne axis
      cases axes with
      | nil => cases entry <;> simp_all [onAxes]
      | cons a axes =>
        rw [onAxes_cons axis] at ok
        obtain ⟨⟨head, near⟩, first, ok⟩ := Outcome.bind_eq_ok_iff.1 ok
        obtain ⟨⟨rest, far⟩, found, ok⟩ := Outcome.bind_eq_ok_iff.1 ok
        obtain ⟨rfl, -⟩ := Prod.mk.inj (Except.ok.inj ok)
        have one := length_of_onAxis takes first
        have others := ih found
        rw [List.countP_cons, List.count_cons_of_ne axis, List.length_append, List.length_cons]
        rw [List.countP_singleton] at one
        omega

theorem countP_fixesAxis_le (entries : List Slice) :
    entries.countP fixesAxis ≤ entries.countP takesAxis := by
  apply List.countP_mono_left
  intro entry _ fixes
  cases entry <;> simp_all [fixesAxis, takesAxis]

theorem exists_firstFault {es : List Nat} {entries : List Slice} :
    (∃ d fault, FirstFault es entries d fault) ↔ ¬ Faultless es entries := by
  classical
  constructor
  · rintro ⟨d, fault, first⟩ faultless
    exact faultless d fault first.1
  · intro faulty
    have some : ∃ d fault, FaultAt es entries d fault := by simpa [Faultless] using faulty
    obtain ⟨fault, at_⟩ := Nat.find_spec some
    exact ⟨Nat.find some, fault, at_, fun d' before other at_' =>
      Nat.find_min some before ⟨other, at_'⟩⟩

theorem FaultAt.lt_length {es : List Nat} {entries : List Slice} {d : Nat} {fault : SliceFault}
    (at_ : FaultAt es entries d fault) : d < es.length := by
  obtain ⟨extent, entry, found, -, -⟩ := at_
  exact (List.getElem?_eq_some_iff.1 found).1

end Slice

namespace Layout

variable {n : Nat} {l : Layout n} {entries : List Slice} {m : Nat}

theorem slice_of_lt (many : n < entries.countP Slice.takesAxis) :
    l.slice entries m =
      .error (.invalidSlice n (.tooManyEntries (entries.countP Slice.takesAxis) n)) :=
  if_pos many

theorem slice_of_firstFault (enough : entries.countP Slice.takesAxis ≤ n) {d : Nat}
    {fault : SliceFault} (first : Slice.FirstFault l.shape.toList entries d fault) :
    l.slice entries m = .error (.invalidSlice d fault) := by
  have room : entries.countP Slice.takesAxis ≤ l.axes.length := by rwa [length_axes]
  have failed := (Slice.onAxes_eq_error_iff 0 room).2
    ⟨d, fault, by rwa [extents_axes], rfl⟩
  rw [Nat.zero_add] at failed
  rw [slice, if_neg (Nat.not_lt.2 enough), failed]
  rfl

theorem slice_of_faultless (enough : entries.countP Slice.takesAxis ≤ n)
    (faultless : Slice.Faultless l.shape.toList entries) :
    if Slice.rankLeft n entries = m then ∃ r, l.slice entries m = .ok r
    else l.slice entries m = .error (.rankMismatch m (Slice.rankLeft n entries)) := by
  have room : entries.countP Slice.takesAxis ≤ l.axes.length := by rwa [length_axes]
  cases sliced : Slice.onAxes 0 entries l.axes with
  | error e =>
    obtain ⟨d, fault, first, -⟩ := (Slice.onAxes_eq_error_iff 0 room).1 sliced
    rw [extents_axes] at first
    exact absurd first.1 (faultless d fault)
  | ok rest =>
    obtain ⟨kept, distance⟩ := rest
    have rank : kept.length = Slice.rankLeft n entries := by
      have balance := Slice.length_of_onAxes sliced
      have fixed := Slice.countP_fixesAxis_le entries
      rw [length_axes] at balance
      rw [Slice.rankLeft]
      omega
    rw [← rank, slice, if_neg (Nat.not_lt.2 enough), sliced]
    split
    · rename_i same
      exact ⟨_, dif_pos same⟩
    · rename_i other
      exact dif_neg other

inductive Verdict (l : Layout n) (entries : List Slice) (m : Nat) :
    Except Error (Layout m × Int) → Prop where
  | tooMany (many : n < entries.countP Slice.takesAxis) :
    Verdict l entries m
      (.error (.invalidSlice n (.tooManyEntries (entries.countP Slice.takesAxis) n)))
  | faulty {d : Nat} {fault : SliceFault} (enough : entries.countP Slice.takesAxis ≤ n)
    (first : Slice.FirstFault l.shape.toList entries d fault) :
    Verdict l entries m (.error (.invalidSlice d fault))
  | otherRank (enough : entries.countP Slice.takesAxis ≤ n)
    (faultless : Slice.Faultless l.shape.toList entries)
    (other : Slice.rankLeft n entries ≠ m) :
    Verdict l entries m (.error (.rankMismatch m (Slice.rankLeft n entries)))
  | met (enough : entries.countP Slice.takesAxis ≤ n)
    (faultless : Slice.Faultless l.shape.toList entries)
    (same : Slice.rankLeft n entries = m) (r : Layout m × Int) : Verdict l entries m (.ok r)

theorem verdict_slice (l : Layout n) (entries : List Slice) (m : Nat) :
    Verdict l entries m (l.slice entries m) := by
  by_cases many : n < entries.countP Slice.takesAxis
  · rw [slice_of_lt many]
    exact .tooMany many
  · have enough := Nat.not_lt.1 many
    by_cases faultless : Slice.Faultless l.shape.toList entries
    · have sliced := slice_of_faultless (m := m) enough faultless
      split at sliced
      · rename_i same
        obtain ⟨r, ok⟩ := sliced
        rw [ok]
        exact .met enough faultless same r
      · rename_i other
        rw [sliced]
        exact .otherRank enough faultless other
    · obtain ⟨d, fault, first⟩ := Slice.exists_firstFault.2 faultless
      rw [slice_of_firstFault enough first]
      exact .faulty enough first

/-- Too many entries come first, then the first entry at fault, then the rank; whatever is left is
met. The bounds of a range do not matter, and no operation is without a result. -/
theorem slice_reports (l : Layout n) (entries : List Slice) (m : Nat) :
    (∀ fault, l.slice entries m = .error (.invalidSlice n fault) ↔
        n < entries.countP Slice.takesAxis ∧
          fault = .tooManyEntries (entries.countP Slice.takesAxis) n) ∧
      (∀ d fault, d ≠ n → (l.slice entries m = .error (.invalidSlice d fault) ↔
        entries.countP Slice.takesAxis ≤ n ∧
          Slice.FirstFault l.shape.toList entries d fault)) ∧
      (∀ expected found, l.slice entries m = .error (.rankMismatch expected found) ↔
        entries.countP Slice.takesAxis ≤ n ∧ Slice.Faultless l.shape.toList entries ∧
          expected = m ∧ found = Slice.rankLeft n entries ∧ found ≠ m) ∧
      ((∃ r, l.slice entries m = .ok r) ↔
        entries.countP Slice.takesAxis ≤ n ∧ Slice.Faultless l.shape.toList entries ∧
          Slice.rankLeft n entries = m) ∧
      (∀ d start stop step fault, d ≠ n → step ≠ 0 →
        Slice.entryFor? entries d = some (.range start stop step) →
          l.slice entries m ≠ .error (.invalidSlice d fault)) ∧
      (l.sliceSteps entries m).unbounded = some (l.slice entries m) := by
  have verdict {r} (same : l.slice entries m = r) : Verdict l entries m r :=
    same ▸ verdict_slice l entries m
  have inside {d fault} (first : Slice.FirstFault l.shape.toList entries d fault) : d < n := by
    simpa using first.1.lt_length
  refine ⟨fun fault => ⟨fun same => ?_, ?_⟩, fun d fault other => ⟨fun same => ?_, ?_⟩,
    fun expected found => ⟨fun same => ?_, ?_⟩, ⟨?_, ?_⟩, ?_, unbounded_sliceSteps l entries m⟩
  · cases verdict same with
    | tooMany many => exact ⟨many, rfl⟩
    | faulty _ first => exact absurd (inside first) (Nat.lt_irrefl n)
  · rintro ⟨many, rfl⟩
    exact slice_of_lt many
  · cases verdict same with
    | tooMany => exact absurd rfl other
    | faulty enough first => exact ⟨enough, first⟩
  · rintro ⟨enough, first⟩
    exact slice_of_firstFault enough first
  · cases verdict same with
    | otherRank enough faultless other => exact ⟨enough, faultless, rfl, rfl, other⟩
  · rintro ⟨enough, faultless, rfl, rfl, other⟩
    have sliced := slice_of_faultless (m := expected) enough faultless
    rwa [if_neg other] at sliced
  · rintro ⟨r, same⟩
    cases verdict same with
    | met enough faultless same => exact ⟨enough, faultless, same⟩
  · rintro ⟨enough, faultless, same⟩
    have sliced := slice_of_faultless (m := m) enough faultless
    rwa [if_pos same] at sliced
  · intro d start stop step fault other moves entry same
    cases verdict same with
    | tooMany => exact other rfl
    | faulty _ first =>
      obtain ⟨extent, _, -, found, faulty⟩ := first.1
      obtain rfl := Option.some.inj (entry.symm.trans found)
      exact Slice.not_faulty_range moves fault faulty

end Layout

end Strided
