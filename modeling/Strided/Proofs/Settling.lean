import Mathlib.Data.List.Basic
import Strided.Calculation

/-! What calculations come to.

Where numbers have no bound, a sequence of calculations comes to what its parts come to. If every
number on the way is a word, a calculation comes to the same on words, whether a build looks for
results that are none or not.
-/

set_option autoImplicit false

namespace Strided

theorem wrapWord_of_isWord {v : Int} (word : IsWord v) : wrapWord v = v := by
  obtain ⟨low, high⟩ := word
  unfold wrapWord
  omega

namespace Calculation

variable {α β : Type}

theorem bind_done (c : Calculation α) : c.bind done = c := by
  induction c with
  | done a => rfl
  | halt => rfl
  | after v rest ih => exact congrArg (after v) (funext ih)
  | recast v rest ih => exact congrArg (recast v) (funext ih)

theorem bind_bind {γ : Type} (c : Calculation α) (f : α → Calculation β) (g : β → Calculation γ) :
    (c.bind f).bind g = c.bind fun a => (f a).bind g := by
  induction c with
  | done a => rfl
  | halt => rfl
  | after v rest ih => exact congrArg (after v) (funext ih)
  | recast v rest ih => exact congrArg (recast v) (funext ih)

instance : LawfulMonad Calculation :=
  LawfulMonad.mk' Calculation bind_done (fun _ _ => rfl) bind_bind

theorem run_bind (read : Int → Option Int) (word : Int → Int) (c : Calculation α)
    (next : α → Calculation β) :
    (c >>= next).run read word = (c.run read word).bind fun a => (next a).run read word := by
  induction c with
  | done a => rfl
  | halt => rfl
  | after v rest ih =>
    change ((read v).bind fun w => (rest w >>= next).run read word) = _
    simp only [ih, run, Option.bind_assoc]
  | recast v rest ih => exact ih (word v)

@[simp] theorem unbounded_bind (c : Calculation α) (next : α → Calculation β) :
    (c >>= next).unbounded = c.unbounded.bind fun a => (next a).unbounded :=
  run_bind some id c next

@[simp] theorem unbounded_pure (a : α) : (pure a : Calculation α).unbounded = some a := rfl

@[simp] theorem unbounded_map (f : α → β) (c : Calculation α) :
    (f <$> c).unbounded = c.unbounded.map f :=
  (unbounded_bind c _).trans (Option.map_eq_bind.symm)

@[simp] theorem unbounded_compute (v : Int) : (compute v).unbounded = some v := rfl

@[simp] theorem unbounded_computeUnsigned (v : Int) : (computeUnsigned v).unbounded = some v :=
  congrArg some (Int.sub_add_cancel v _)

@[simp] theorem unbounded_cast (v : Int) : (cast v).unbounded = some v := rfl

@[simp] theorem unbounded_ofOption (a : Option α) : (ofOption a).unbounded = a := by
  cases a <;> rfl

theorem unbounded_require {condition : Prop} [Decidable condition] (met : condition) :
    (require condition).unbounded = some () := by
  rw [require, if_pos met]
  rfl

section
variable {ε ε' : Type}

theorem unbounded_run_bind {x : ExceptT ε Calculation α} {f : α → ExceptT ε Calculation β}
    {r : Except ε α} {g : α → Except ε β} (first : x.run.unbounded = some r)
    (next : ∀ a, (f a).run.unbounded = some (g a)) :
    (x >>= f).run.unbounded = some (r >>= g) := by
  rw [ExceptT.run_bind, unbounded_bind, first]
  cases r with
  | ok a => exact next a
  | error fault => rfl

theorem unbounded_run_lift {c : Calculation α} {a : α} (found : c.unbounded = some a) :
    (liftM c : ExceptT ε Calculation α).run.unbounded = some (.ok a) := by
  change (Except.ok <$> c : Calculation (Except ε α)).unbounded = _
  rw [unbounded_map, found]
  rfl

theorem unbounded_run_lift_bind {c : Calculation α} {f : α → ExceptT ε Calculation β} {a : α}
    {r : Except ε β} (first : c.unbounded = some a) (next : (f a).run.unbounded = some r) :
    ((liftM c : ExceptT ε Calculation α) >>= f).run.unbounded = some r := by
  rw [ExceptT.run_bind, unbounded_bind, unbounded_run_lift first]
  exact next

theorem unbounded_run_except (r : Except ε α) :
    (liftM r : ExceptT ε Calculation α).run.unbounded = some r := rfl

theorem unbounded_run_adapt {x : ExceptT ε Calculation α} {r : Except ε α} (f : ε → ε')
    (found : x.run.unbounded = some r) : (x.adapt f).run.unbounded = some (r.mapError f) := by
  change (Except.mapError f <$> x.run : Calculation (Except ε' α)).unbounded = _
  rw [unbounded_map, found]
  rfl

end

theorem checked_bind_eq_some_iff {c : Calculation α} {next : α → Calculation β} {b : β} :
    (c >>= next).checked = some b ↔ ∃ a, c.checked = some a ∧ (next a).checked = some b := by
  rw [checked, run_bind, Option.bind_eq_some_iff]
  rfl

theorem checked_compute_eq_some_iff {v w : Int} :
    (compute v).checked = some w ↔ IsWord v ∧ v = w := by
  by_cases word : IsWord v <;> simp [compute, checked, run, word]

theorem checked_cast {v : Int} (word : IsWord v) : (cast v).checked = some v :=
  congrArg some (wrapWord_of_isWord word)

/-- Every number on the way is a word. -/
def Fits (c : Calculation α) : Prop :=
  ∀ v ∈ c.numbers, IsWord v

instance (c : Calculation α) : Decidable c.Fits :=
  inferInstanceAs (Decidable (∀ v ∈ c.numbers, IsWord v))

theorem fits_after {v : Int} {rest : Int → Calculation α} :
    (after v rest).Fits ↔ IsWord v ∧ (rest v).Fits :=
  List.forall_mem_cons

theorem fits_recast {v : Int} {rest : Int → Calculation α} :
    (recast v rest).Fits ↔ IsWord v ∧ (rest v).Fits :=
  List.forall_mem_cons

@[simp] theorem fits_done (a : α) : (done a).Fits :=
  fun _ member => nomatch member

@[simp] theorem fits_pure (a : α) : (pure a : Calculation α).Fits :=
  fits_done a

@[simp] theorem fits_compute {v : Int} : (compute v).Fits ↔ IsWord v := by
  simp [compute, fits_after]

@[simp] theorem fits_computeUnsigned {v : Int} :
    (computeUnsigned v).Fits ↔ 0 ≤ v ∧ v < 18446744073709551616 := by
  rw [computeUnsigned, fits_after, and_iff_left (fits_done _), IsWord]
  omega

@[simp] theorem fits_cast {v : Int} : (cast v).Fits ↔ IsWord v := by
  simp [cast, fits_recast]

@[simp] theorem fits_require (condition : Prop) [Decidable condition] :
    (require condition).Fits := by
  unfold require
  split <;> exact fun _ member => nomatch member

@[simp] theorem fits_ofOption (a : Option α) : (ofOption a).Fits := by
  cases a <;> exact fun _ member => nomatch member

theorem numbers_bind {c : Calculation α} {a : α} (found : c.unbounded = some a)
    (next : α → Calculation β) : (c >>= next).numbers = c.numbers ++ (next a).numbers := by
  induction c with
  | done b =>
    cases found
    rfl
  | halt => cases found
  | after v rest ih | recast v rest ih => exact congrArg (v :: ·) (ih v found)

theorem fits_bind {c : Calculation α} {a : α} (found : c.unbounded = some a)
    {next : α → Calculation β} : (c >>= next).Fits ↔ c.Fits ∧ (next a).Fits := by
  rw [Fits, numbers_bind found, List.forall_mem_append]
  rfl

theorem checked_of_fits {c : Calculation α} (fits : c.Fits) : c.checked = c.unbounded := by
  induction c with
  | done a => rfl
  | halt => rfl
  | after v rest ih =>
    obtain ⟨word, fits⟩ := fits_after.1 fits
    have first : (after v rest).checked = (rest v).checked := by simp [checked, run, word]
    rw [first]
    exact ih v fits
  | recast v rest ih =>
    obtain ⟨word, fits⟩ := fits_recast.1 fits
    have first : (recast v rest).checked = (rest v).checked := by
      simp [checked, run, wrapWord_of_isWord word]
    rw [first]
    exact ih v fits

theorem wrapping_of_fits {c : Calculation α} (fits : c.Fits) : c.wrapping = c.unbounded := by
  induction c with
  | done a => rfl
  | halt => rfl
  | after v rest ih =>
    obtain ⟨word, fits⟩ := fits_after.1 fits
    have first : (after v rest).wrapping = (rest v).wrapping := by
      simp [wrapping, run, wrapWord_of_isWord word]
    rw [first]
    exact ih v fits
  | recast v rest ih =>
    obtain ⟨word, fits⟩ := fits_recast.1 fits
    have first : (recast v rest).wrapping = (rest v).wrapping := by
      simp [wrapping, run, wrapWord_of_isWord word]
    rw [first]
    exact ih v fits

/-- Whatever the operations come to, nothing is cast. -/
def Castless : Calculation α → Prop
  | done _ | halt => True
  | after _ rest => ∀ w, (rest w).Castless
  | recast _ _ => False

theorem castless_bind {c : Calculation α} {next : α → Calculation β} (first : c.Castless)
    (then_ : ∀ a, (next a).Castless) : (c >>= next).Castless := by
  induction c with
  | done a => exact then_ a
  | halt => trivial
  | after v rest ih => exact fun w => ih w (first w)
  | recast v rest ih => exact first.elim

theorem castless_pure (a : α) : (pure a : Calculation α).Castless :=
  trivial

theorem castless_compute (v : Int) : (compute v).Castless :=
  fun _ => trivial

theorem castless_require (condition : Prop) [Decidable condition] :
    (require condition).Castless := by
  unfold require
  split <;> trivial

theorem castless_ofOption (a : Option α) : (ofOption a).Castless := by
  cases a <;> trivial

theorem castless_run_bind {ε : Type} {x : ExceptT ε Calculation α}
    {f : α → ExceptT ε Calculation β} (first : x.run.Castless)
    (then_ : ∀ a, (f a).run.Castless) : (x >>= f).run.Castless :=
  castless_bind first fun r => match r with
    | .ok a => then_ a
    | .error _ => castless_pure _

-- A cast to a number that is no word goes on with another one, which may come to an end.
theorem checked_of_not_fits {c : Calculation α} (castless : c.Castless) (large : ¬ c.Fits) :
    c.checked = none := by
  induction c with
  | done a => exact absurd (fits_done a) large
  | halt => rfl
  | after v rest ih =>
    by_cases word : IsWord v
    · have first : (after v rest).checked = (rest v).checked := by simp [checked, run, word]
      rw [first]
      exact ih v (castless v) fun fits => large (fits_after.2 ⟨word, fits⟩)
    · simp [checked, run, word]
  | recast v rest => exact castless.elim

theorem fits_of_checked {c : Calculation α} (castless : c.Castless) {a : α}
    (found : c.checked = some a) : c.Fits := by
  by_contra large
  cases (checked_of_not_fits castless large).symm.trans found

theorem unbounded_of_checked {c : Calculation α} (castless : c.Castless) {a : α}
    (found : c.checked = some a) : c.unbounded = some a :=
  (checked_of_fits (fits_of_checked castless found)).symm.trans found

/-- The calculation comes to the result in every build. -/
structure Settles (c : Calculation α) (a : α) : Prop where
  checked : c.checked = some a
  wrapping : c.wrapping = some a

theorem Fits.settles {c : Calculation α} {a : α} (fits : c.Fits) (found : c.unbounded = some a) :
    c.Settles a :=
  ⟨(checked_of_fits fits).trans found, (wrapping_of_fits fits).trans found⟩

theorem settles_pure (a : α) : (pure a : Calculation α).Settles a :=
  ⟨rfl, rfl⟩

theorem Settles.bind {c : Calculation α} {a : α} {next : α → Calculation β} {b : β}
    (first : c.Settles a) (then_ : (next a).Settles b) : (c >>= next).Settles b where
  checked := by
    refine (run_bind _ _ c next).trans ?_
    rw [show c.run _ _ = some a from first.checked]
    exact then_.checked
  wrapping := by
    refine (run_bind _ _ c next).trans ?_
    rw [show c.run _ _ = some a from first.wrapping]
    exact then_.wrapping

theorem Settles.ite {p : Prop} [Decidable p] {c d : Calculation α} {a b : α}
    (yes : p → c.Settles a) (no : ¬ p → d.Settles b) :
    (if p then c else d).Settles (if p then a else b) := by
  split
  · exact yes ‹_›
  · exact no ‹_›

section
variable {ε : Type}

theorem Settles.run_bind {x : ExceptT ε Calculation α} {f : α → ExceptT ε Calculation β}
    {r : Except ε α} {g : α → Except ε β} (first : x.run.Settles r)
    (next : ∀ a, r = .ok a → (f a).run.Settles (g a)) : (x >>= f).run.Settles (r >>= g) := by
  refine Settles.bind first ?_
  cases r with
  | ok a => exact next a rfl
  | error fault => exact settles_pure _

theorem Settles.run_ok_bind {x : ExceptT ε Calculation α} {f : α → ExceptT ε Calculation β} {a : α}
    {r : Except ε β} (first : x.run.Settles (.ok a)) (next : (f a).run.Settles r) :
    (x >>= f).run.Settles r :=
  Settles.bind first next

theorem Settles.run_lift {c : Calculation α} {a : α} (found : c.Settles a) :
    (liftM c : ExceptT ε Calculation α).run.Settles (.ok a) :=
  found.bind (settles_pure _)

theorem Settles.run_lift_bind {c : Calculation α} {f : α → ExceptT ε Calculation β} {a : α}
    {r : Except ε β} (first : c.Settles a) (next : (f a).run.Settles r) :
    ((liftM c : ExceptT ε Calculation α) >>= f).run.Settles r :=
  first.run_lift.run_ok_bind next

theorem Settles.run_adapt {ε' : Type} {x : ExceptT ε Calculation α} {r : Except ε α} (f : ε → ε')
    (found : x.run.Settles r) : (x.adapt f).run.Settles (r.mapError f) :=
  found.bind (settles_pure _)

theorem settles_run_except (r : Except ε α) :
    (liftM r : ExceptT ε Calculation α).run.Settles r :=
  settles_pure r

end

theorem Settles.unique {c : Calculation α} {a b : α} (first : c.Settles a) (second : c.Settles b) :
    a = b :=
  Option.some.inj (first.checked.symm.trans second.checked)

end Calculation

end Strided
