/-! Steps that may fail, one after the other: when a sequence succeeds, and whose fault a failure
is. Two sequences can be followed side by side.
-/

set_option autoImplicit false

namespace Strided.Outcome

variable {ε α β : Type}

theorem bind_eq_ok_iff {x : Except ε α} {f : α → Except ε β} {b : β} :
    x >>= f = .ok b ↔ ∃ a, x = .ok a ∧ f a = .ok b := by
  cases x with
  | ok a => simp [bind, Except.bind]
  | error fault => simp [bind, Except.bind]

theorem bind_eq_error_iff {x : Except ε α} {f : α → Except ε β} {fault : ε} :
    x >>= f = .error fault ↔ x = .error fault ∨ ∃ a, x = .ok a ∧ f a = .error fault := by
  cases x with
  | ok a => simp [bind, Except.bind]
  | error other => simp [bind, Except.bind]

theorem map_eq_ok_iff {x : Except ε α} {f : α → β} {b : β} :
    f <$> x = .ok b ↔ ∃ a, x = .ok a ∧ f a = b := by
  cases x with
  | ok a => simp [Functor.map, Except.map]
  | error fault => simp [Functor.map, Except.map]

theorem forM_eq_ok_iff {xs : List α} {f : α → Except ε PUnit} :
    xs.forM f = .ok () ↔ ∀ x ∈ xs, f x = .ok () := by
  induction xs with
  | nil => simp [pure, Except.pure]
  | cons x xs ih =>
    change (f x >>= fun _ => xs.forM f) = .ok () ↔ _
    rw [bind_eq_ok_iff, List.forall_mem_cons, ← ih]
    exact ⟨fun ⟨_, first, rest⟩ => ⟨first, rest⟩, fun ⟨first, rest⟩ => ⟨(), first, rest⟩⟩

-- The fault of a traversal is that of the first step at fault.
theorem forM_eq_error_iff {xs : List α} {f : α → Except ε PUnit} {fault : ε} :
    xs.forM f = .error fault ↔
      ∃ before x after, xs = before ++ x :: after ∧ (∀ y ∈ before, f y = .ok ()) ∧
        f x = .error fault := by
  induction xs with
  | nil => simp [pure, Except.pure]
  | cons x xs ih =>
    change (f x >>= fun _ => xs.forM f) = .error fault ↔ _
    rw [bind_eq_error_iff, ih]
    constructor
    · rintro (first | ⟨_, first, before, y, after, rfl, fine, last⟩)
      · exact ⟨[], x, xs, rfl, by simp, first⟩
      · exact ⟨x :: before, y, after, rfl, List.forall_mem_cons.2 ⟨first, fine⟩, last⟩
    · rintro ⟨_ | ⟨z, before⟩, y, after, same, fine, last⟩
      · obtain ⟨rfl, -⟩ := List.cons.inj same
        exact Or.inl last
      · obtain ⟨rfl, rfl⟩ := List.cons.inj same
        obtain ⟨first, fine⟩ := List.forall_mem_cons.1 fine
        exact Or.inr ⟨(), first, before, y, after, rfl, fine, last⟩

/-- Both fail with the same fault, or both succeed with related results. -/
inductive Alike (R : α → β → Prop) : Except ε α → Except ε β → Prop where
  | ok {a : α} {b : β} (related : R a b) : Alike R (.ok a) (.ok b)
  | error (fault : ε) : Alike R (.error fault) (.error fault)

section
variable {γ δ : Type} {R R' : α → β → Prop} {S : γ → δ → Prop} {x : Except ε α} {y : Except ε β}

theorem Alike.imp (alike : Alike R x y) (weaker : ∀ a b, R a b → R' a b) : Alike R' x y := by
  cases alike with
  | ok related => exact .ok (weaker _ _ related)
  | error fault => exact .error fault

theorem Alike.exists_ok (alike : Alike R x y) {b : β} (ok : y = .ok b) :
    ∃ a, x = .ok a ∧ R a b := by
  cases alike with
  | ok related =>
    cases ok
    exact ⟨_, rfl, related⟩
  | error fault => cases ok

theorem Alike.and_ok (alike : Alike R x y) :
    Alike (fun a b => R a b ∧ x = .ok a ∧ y = .ok b) x y := by
  cases alike with
  | ok related => exact .ok ⟨related, rfl, rfl⟩
  | error fault => exact .error fault

theorem Alike.bind (alike : Alike R x y) {f : α → Except ε γ} {g : β → Except ε δ}
    (next : ∀ a b, R a b → Alike S (f a) (g b)) : Alike S (x >>= f) (y >>= g) := by
  cases alike with
  | ok related => exact next _ _ related
  | error fault => exact .error fault

theorem Alike.map (alike : Alike R x y) {f : α → γ} {g : β → δ}
    (next : ∀ a b, R a b → S (f a) (g b)) : Alike S (f <$> x) (g <$> y) := by
  cases alike with
  | ok related => exact .ok (next _ _ related)
  | error fault => exact .error fault

theorem Alike.map_right {S : α → δ → Prop} (alike : Alike R x y) {g : β → δ}
    (next : ∀ a b, R a b → S a (g b)) : Alike S x (g <$> y) := by
  cases alike with
  | ok related => exact .ok (next _ _ related)
  | error fault => exact .error fault

theorem Alike.mapError (alike : Alike R x y) {ε' : Type} (f : ε → ε') :
    Alike R (x.mapError f) (y.mapError f) := by
  cases alike with
  | ok related => exact .ok related
  | error fault => exact .error (f fault)

theorem Alike.of_eq {x : Except ε α} {y : Except ε α} (same : x = y) : Alike (· = ·) x y := by
  subst same
  cases x with
  | ok a => exact .ok rfl
  | error fault => exact .error fault

end

end Strided.Outcome
