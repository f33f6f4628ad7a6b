import Strided.Numerics.Standard
import Strided.Proofs.Refinement
import Strided.Proofs.Transferring
import Strided.Proofs.Writing

/-! Tensors that were moved from, over a whole run of commands.

The mark of a tensor tells what has happened to it: it was the source of a take, and nothing has
given it elements or a length since. Every operation that would reach for its elements looks at the
mark first, so a marked tensor is neither read nor written.
-/

set_option autoImplicit false

namespace Strided

variable {t : DType} {n : Nat}

/-- Something of the first kind has happened, and nothing of the second kind after it. -/
def Since {α : Type} (p q : α → Prop) (trace : List α) : Prop :=
  ∃ before event after, trace = before ++ event :: after ∧ p event ∧ ∀ later ∈ after, ¬ q later

theorem since_append_singleton {α : Type} {p q : α → Prop} {trace : List α} {event : α} :
    Since p q (trace ++ [event]) ↔ p event ∨ Since p q trace ∧ ¬ q event := by
  constructor
  · rintro ⟨before, first, after, split, begun, lasting⟩
    -- The last event is the one that counts, or it comes after that one.
    rcases List.eq_nil_or_concat after with rfl | ⟨after, last, rfl⟩
    · obtain ⟨-, same⟩ := List.append_inj' split rfl
      cases same
      exact Or.inl begun
    · rw [List.concat_eq_append, ← List.cons_append, ← List.append_assoc] at split
      obtain ⟨rfl, same⟩ := List.append_inj' split rfl
      cases same
      rw [List.concat_eq_append, List.forall_mem_append] at lasting
      exact Or.inr ⟨⟨before, first, after, rfl, begun, lasting.1⟩, lasting.2 _ List.mem_cons_self⟩
  · rintro (begun | ⟨⟨before, first, after, rfl, begun, lasting⟩, kept⟩)
    · exact ⟨trace, event, [], rfl, begun, nofun⟩
    · refine ⟨before, first, after ++ [event], by simp, begun, ?_⟩
      exact List.forall_mem_append.2 ⟨lasting, List.forall_mem_singleton.2 kept⟩

namespace Command

/-- The buffer of the tensor of the name goes to another name. -/
def Takes (name : String) : Command → Prop
  | derive k source .take => source = name ∧ k ≠ name
  | _ => False

/-- The tensor of the name is given elements or a length. -/
def Revives (name : String) : Command → Prop
  | assign target _ => target = ⟨name, none⟩
  | resize k _ | resizeDiscard k _ | cloneFrom k _ => k = name
  | _ => False

/-- The name is given another tensor, or none. -/
def Rebinds (name : String) : Command → Prop
  | create k _ _ | derive k _ _ | fullLike k _ _ | drop k => k = name
  | _ => False

end Command

abbrev Event := Command × Except Failure Unit

namespace Event

def Takes (name : String) (event : Event) : Prop :=
  event.2 = .ok () ∧ event.1.Takes name

/-- The tensor of the name is from now on another one, or as good as another one. -/
def Renews (name : String) (event : Event) : Prop :=
  event.2 = .ok () ∧ (event.1.Revives name ∨ event.1.Rebinds name)

end Event

namespace Tensor

variable {space : Space} {c : ExecConfig} {m : Memory}

/-- The tensor is live, and its storage has the length that its shape asks for. -/
structure Whole (x : Tensor t n) : Prop where
  live : x.isMovedFrom = false
  len : x.storage.len = x.size

/-! Whatever makes a tensor goes through a new length of its storage, which clears the mark. -/

theorem whole_resizeKeeping (s : Storage t) (shape : Shape n) (kept : Nat) (m : Memory) :
    Whole (⟨.contiguous shape, (s.resizeKeeping kept shape.size m).1⟩ : Tensor t n) :=
  ⟨Storage.released_resizeKeeping s kept _ m, Storage.len_resizeKeeping s kept _ m⟩

theorem whole_empty (space : Space) (s : Shape n) (m : Memory) :
    (empty (t := t) space s m).1.Whole :=
  whole_resizeKeeping _ s 0 m

theorem whole_ofList {s : Shape n} {data : List t.Elem} {r : Tensor t n × Memory}
    (ok : ofList space s data m = .ok r) : r.1.Whole := by
  unfold ofList at ok
  split at ok
  · rename_i length
    obtain rfl := Except.ok.inj ok
    have whole := whole_empty (t := t) space s m
    rwa [empty, length] at whole
  · cases ok

theorem whole_ofNested {data : Nested t.Elem n} {r : Tensor t n × Memory}
    (ok : ofNested space data m = .ok r) : r.1.Whole := by
  obtain ⟨_, _, ok⟩ := Outcome.bind_eq_ok_iff.1 ok
  exact whole_ofList ok

theorem whole_toSpace {x : Tensor t n} {r : Tensor t n × Memory}
    (ok : x.toSpace space m = .ok r) : r.1.Whole := by
  obtain ⟨_, _, ok⟩ := Outcome.bind_eq_ok_iff.1 ok
  obtain rfl := Except.ok.inj ok
  exact whole_empty space x.shape m

theorem whole_ofSpan [Numerics] (c : ExecConfig) (s : Span t n) (m : Memory) :
    (ofSpan c s m).1.Whole := by
  have whole := whole_empty (t := t) s.space s.shape m
  unfold ofSpan
  dsimp only
  split
  · exact whole
  · split <;> exact whole

theorem live_adopt (x : Tensor t n) (s : Shape n) (m : Memory) :
    (x.adopt s m).1.isMovedFrom = false := by
  rcases adopt_cases x s m with ⟨_, resized⟩ | ⟨live, _, same⟩
  · rw [resized]
    exact Storage.released_resizeKeeping _ _ _ _
  · rw [same]
    exact live

theorem Accepts.exists_assign [Numerics] {x : Tensor t n} {e : Expr n t} {s : Shape n}
    (accepts : x.Accepts e s) (c : ExecConfig) (m : Memory) :
    ∃ m', x.assign c e m = (.ok (), (x.adopt s m).1, m') := by
  have joined := Term.shape_eq_ok_iff.2 ⟨accepts.live, accepts.join⟩
  have enters := Term.checkSpace_eq_ok_iff.2 accepts.home
  have fits : s.broadcastsTo (x.adopt s m).1.span.shape = .ok () :=
    Shape.broadcastsTo_eq_ok_iff.2 (accepts.fits_adopt m)
  have home : e.checkSpace (x.adopt s m).1.span.space = .ok () := by
    change e.checkSpace (x.adopt s m).1.space = .ok ()
    rw [space_adopt, enters]
  obtain ⟨m', done⟩ : ∃ m', (x.adopt s m).1.span.assign c e (x.adopt s m).2 = .ok m' := by
    simp only [Span.assign, joined, home, fits, bind, Except.bind]
    exact ⟨_, rfl⟩
  exact ⟨m', by simp only [Tensor.assign, joined, enters, done]⟩

-- An assignment that fails leaves the tensor as it was: once it has a new shape it cannot fail.
theorem assign_cases [Numerics] (c : ExecConfig) (x : Tensor t n) (e : Expr n t) (m : Memory) :
    (∃ y m', x.assign c e m = (.ok (), y, m') ∧ y.isMovedFrom = false) ∨
      ∃ fault, x.assign c e m = (.error fault, x, m) := by
  rcases accepts_or_refuses x e with ⟨s, accepts⟩ | ⟨fault, refuses⟩
  · obtain ⟨m', done⟩ := accepts.exists_assign c m
    exact Or.inl ⟨_, m', done, live_adopt x s m⟩
  · exact Or.inr ⟨fault, refuses.assign⟩

theorem Whole.assign [Numerics] {x y : Tensor t n} {e : Expr n t} {m' : Memory} (whole : x.Whole)
    (done : x.assign c e m = (.ok (), y, m')) : y.Whole := by
  rcases accepts_or_refuses x e with ⟨s, accepts⟩ | ⟨fault, refuses⟩
  · obtain ⟨_, own⟩ := accepts.exists_assign c m
    cases own.symm.trans done
    rcases adopt_cases x s m with ⟨_, resized⟩ | ⟨_, _, same⟩
    · exact resized ▸ whole_resizeKeeping x.storage s 0 m
    · exact same ▸ whole
  · cases refuses.assign.symm.trans done

theorem whole_ofExpr [Numerics] {e : Expr n t} {r : Tensor t n × Memory}
    (ok : ofExpr c space e m = .ok r) : r.1.Whole := by
  unfold ofExpr at ok
  dsimp only at ok
  split at ok
  · rename_i done
    obtain rfl := Except.ok.inj ok
    exact (whole_empty space .zeros m).assign done
  · cases ok

end Tensor

namespace Workspace

def Moved (w : Workspace) (name : String) : Prop :=
  ∃ x, w.tensor? name = some x ∧ x.tensor.isMovedFrom = true

/-- The name is given a live tensor; the others keep theirs. -/
def Places (w : Workspace) (k : String) (w' : Workspace) : Prop :=
  ∃ (t : DType) (n : Nat) (r : Tensor t n × Memory), r.1.isMovedFrom = false ∧
    w' = { w with memory := r.2 }.put k r.1

/-- The name is given a live tensor with a buffer for all its elements. -/
def Builds (w : Workspace) (k : String) (w' : Workspace) : Prop :=
  ∃ (t : DType) (n : Nat) (r : Tensor t n × Memory), r.1.Whole ∧
    w' = { w with memory := r.2 }.put k r.1

variable {w w' : Workspace} {c : ExecConfig} {name k : String}

theorem moved_put {x : Tensor t n} : (w.put k x).Moved name ↔
    if name = k then x.isMovedFrom = true else w.Moved name := by
  unfold Moved
  rw [tensor?_put]
  split
  · simp
  · rfl

theorem Places.moved_iff (places : w.Places k w') :
    w'.Moved name ↔ w.Moved name ∧ k ≠ name := by
  obtain ⟨t, n, r, live, rfl⟩ := places
  rw [moved_put, live]
  by_cases here : name = k
  · simp [here]
  · rw [if_neg here, and_iff_left (Ne.symm here)]
    rfl

theorem moved_congr (same : w'.tensor? = w.tensor?) : w'.Moved name ↔ w.Moved name := by
  rw [Moved, Moved, same]

theorem exists_of_withTensor {r : Except Error (Tensor t n × Memory)}
    (ok : w.withTensor k r = .ok w') :
    ∃ y, r = .ok y ∧ w' = { w with memory := y.2 }.put k y.1 := by
  cases r with
  | error fault => cases ok
  | ok y => exact ⟨y, rfl, (Except.ok.inj ok).symm⟩

theorem Builds.places (builds : w.Builds k w') : w.Places k w' := by
  obtain ⟨t, n, r, whole, rfl⟩ := builds
  exact ⟨t, n, r, whole.live, rfl⟩

theorem builds_withTensor {r : Except Error (Tensor t n × Memory)}
    (whole : ∀ y, r = .ok y → y.1.Whole) (ok : w.withTensor k r = .ok w') : w.Builds k w' := by
  obtain ⟨y, made, rfl⟩ := exists_of_withTensor ok
  exact ⟨t, n, y, whole y made, rfl⟩

theorem tensor?_withMemory {r : Except Error Memory} (ok : w.withMemory r = .ok w') :
    w'.tensor? = w.tensor? := by
  cases r with
  | error fault => cases ok
  | ok m =>
    obtain rfl := Except.ok.inj ok
    rfl

theorem builds_create [Numerics] {space : Space} {contents : Contents n t}
    (ok : w.create c k space contents = .ok w') : w.Builds k w' := by
  cases contents with
  | unshaped =>
    obtain rfl := Except.ok.inj ok
    exact ⟨t, n, _, Tensor.whole_empty space .zeros w.memory, rfl⟩
  | unspecified s =>
    obtain rfl := Except.ok.inj ok
    exact ⟨t, n, _, Tensor.whole_empty space s w.memory, rfl⟩
  | repeated s v =>
    obtain rfl := Except.ok.inj ok
    exact ⟨t, n, Tensor.full c space s v w.memory, Tensor.whole_empty space s w.memory, rfl⟩
  | listed s data => exact builds_withTensor (fun _ => Tensor.whole_ofList) ok
  | nested data => exact builds_withTensor (fun _ => Tensor.whole_ofNested) ok
  | value e =>
    obtain ⟨r, _, ok⟩ := Outcome.bind_eq_ok_iff.1 ok
    exact builds_withTensor (fun _ => Tensor.whole_ofExpr) ok

theorem builds_derive [Numerics] {source : String} {how : Derivation} (stays : how ≠ .take)
    (makes : how ≠ .clone) (ok : w.derive c k source how = .ok w') : w.Builds k w' := by
  obtain ⟨x, found, ok⟩ := Outcome.bind_eq_ok_iff.1 ok
  cases how with
  | clone => exact absurd rfl makes
  | emptyLike =>
    obtain rfl := Except.ok.inj ok
    exact ⟨_, _, _, Tensor.whole_empty x.tensor.space x.tensor.shape w.memory, rfl⟩
  | zerosLike =>
    obtain rfl := Except.ok.inj ok
    exact ⟨_, _, Tensor.full c x.tensor.space x.tensor.shape x.dtype.zero w.memory,
      Tensor.whole_empty x.tensor.space x.tensor.shape w.memory, rfl⟩
  | toSpace space => exact builds_withTensor (fun _ => Tensor.whole_toSpace) ok
  | ofView slices =>
    obtain ⟨s, _, ok⟩ := Outcome.bind_eq_ok_iff.1 ok
    obtain rfl := Except.ok.inj ok
    exact ⟨_, _, _, Tensor.whole_ofSpan c s.span w.memory, rfl⟩
  | take => exact absurd rfl stays

theorem derive_clone_eq_ok_iff [Numerics] {source : String} :
    w.derive c k source .clone = .ok w' ↔ ∃ x, w.tensor? source = some x ∧
      w' = { w with memory := (x.tensor.clone w.memory).2 }.put k (x.tensor.clone w.memory).1 := by
  rw [derive, Outcome.bind_eq_ok_iff]
  simp only [find_eq_ok_iff, withTensor, Except.ok.injEq, eq_comm (b := w')]

theorem places_derive [Numerics] {source : String} {how : Derivation} (stays : how ≠ .take)
    (ok : w.derive c k source how = .ok w') : w.Places k w' := by
  by_cases copy : how = .clone
  · subst copy
    obtain ⟨x, _, rfl⟩ := derive_clone_eq_ok_iff.1 ok
    exact ⟨_, _, x.tensor.clone w.memory, Storage.released_resizeKeeping _ _ _ _, rfl⟩
  · exact (builds_derive stays copy ok).places

/-- What a command does to the tensors of a workspace, with what came of it. -/
inductive Effect (w : Workspace) : Command → Except Failure Unit × Workspace → Prop where
  | failed {command : Command} {fault : Failure} {w' : Workspace} (same : w'.tensor? = w.tensor?) :
      Effect w command (.error fault, w')
  /-- Elements change, and nothing else. -/
  | within {command : Command} {w' : Workspace} (taken : ∀ name, ¬ command.Takes name)
      (renewed : ∀ name, ¬ (command.Revives name ∨ command.Rebinds name))
      (same : w'.tensor? = w.tensor?) : Effect w command (.ok (), w')
  /-- The name is given a live tensor. -/
  | placed {command : Command} {k : String} {w' : Workspace} (taken : ∀ name, ¬ command.Takes name)
      (renewed : ∀ name, command.Revives name ∨ command.Rebinds name ↔ k = name)
      (places : w.Places k w') : Effect w command (.ok (), w')
  /-- The source is left moved-from, unless the new tensor takes its place. -/
  | taken {k source : String} (x : AnyTensor) : Effect w (.derive k source .take)
      (.ok (), (w.put source x.tensor.take.2).put k x.tensor.take.1)
  | dropped (k : String) : Effect w (.drop k) (.ok (), w.erase k)

theorem effect_settle {command : Command} {r : Except Failure Workspace}
    (done : ∀ w', r = .ok w' → w.Effect command (.ok (), w')) : w.Effect command (w.settle r) := by
  cases r with
  | ok w' => exact done w' rfl
  | error fault => exact .failed rfl

theorem effect_derive [Numerics] (c : ExecConfig) (k source : String) (how : Derivation) :
    w.Effect (.derive k source how) (w.settle (w.derive c k source how)) := by
  by_cases take : how = .take
  · subst take
    refine effect_settle fun _ ok => ?_
    obtain ⟨x, _, ok⟩ := Outcome.bind_eq_ok_iff.1 ok
    obtain rfl := Except.ok.inj ok
    exact .taken x
  · refine effect_settle fun _ ok => .placed (fun _ => ?_)
      (by simp [Command.Revives, Command.Rebinds]) (places_derive take ok)
    cases how <;> first | exact id | exact absurd rfl take

theorem window_eq_none_of_operand {target : Target} {x : Tensor t n}
    (found : w.operand t n target = .ok (.tensor x)) : target.window = none := by
  unfold operand at found
  split at found
  · assumption
  · obtain ⟨_, _, same⟩ := Outcome.bind_eq_ok_iff.1 found
    cases same

theorem window_ne_none_of_operand {target : Target} {s : Span t n}
    (found : w.operand t n target = .ok (.window s)) : target.window ≠ none := by
  intro whole
  simp only [operand, whole] at found
  obtain ⟨_, _, same⟩ := Outcome.bind_eq_ok_iff.1 found
  cases same

-- Only an assignment to the whole tensor gives it elements or a length: a window is taken of a live
-- tensor.
theorem effect_assign [Numerics] (c : ExecConfig) (target : Target) (e : Term (Reference n) t) :
    w.Effect (.assign target e) (w.assign c target e) := by
  unfold assign
  split
  · exact .failed rfl
  · exact .failed rfl
  · rename_i x e m found _
    have known := tensor_eq_ok_iff.1 (tensor_of_operand found)
    have whole := window_eq_none_of_operand found
    rcases x.assign_cases c e m with ⟨y, m', done, live⟩ | ⟨fault, failed⟩
    · rw [done]
      refine .placed (fun _ => id) (fun name => ?_) ⟨t, n, (y, m'), live, rfl⟩
      obtain ⟨k, window⟩ := target
      obtain rfl : window = none := whole
      simp [Command.Revives, Command.Rebinds]
    · rw [failed]
      have same : (w.put target.name x).tensor? = w.tensor? := by rw [put_self known]
      exact .failed same
  · rename_i s e m found _
    have part := window_ne_none_of_operand found
    split
    · refine .within (fun _ => id) (fun name => ?_) rfl
      rintro (revived | ⟨⟨⟩⟩)
      exact part (congrArg Target.window revived)
    · exact .failed rfl

theorem effect_run [Numerics] (w : Workspace) (c : ExecConfig) (command : Command) :
    w.Effect command (w.run c command) := by
  cases command with
  | create k space contents =>
    exact effect_settle fun _ ok => .placed (fun _ => id)
      (by simp [Command.Revives, Command.Rebinds]) (builds_create ok).places
  | derive k source how => exact effect_derive c k source how
  | fullLike k source v =>
    refine effect_settle fun _ ok => ?_
    obtain ⟨x, _, ok⟩ := Outcome.bind_eq_ok_iff.1 ok
    obtain rfl := Except.ok.inj ok
    have places : w.Places k _ := ⟨_, _, Tensor.full c x.tensor.space x.tensor.shape v w.memory,
      (Tensor.whole_empty x.tensor.space x.tensor.shape w.memory).live, rfl⟩
    exact .placed (fun _ => id) (by simp [Command.Revives, Command.Rebinds]) places
  | assign target e => exact effect_assign c target e
  | update op target e =>
    refine effect_settle fun _ ok => .within (fun _ => id) (fun _ => or_self_iff.not.2 id) ?_
    obtain ⟨into, _, ok⟩ := Outcome.bind_eq_ok_iff.1 ok
    obtain ⟨r, _, ok⟩ := Outcome.bind_eq_ok_iff.1 ok
    cases into <;> exact tensor?_withMemory ok
  | fill target v =>
    refine effect_settle fun _ ok => .within (fun _ => id) (fun _ => or_self_iff.not.2 id) ?_
    obtain ⟨_, _, ok⟩ := Outcome.bind_eq_ok_iff.1 ok
    obtain ⟨into, _, ok⟩ := Outcome.bind_eq_ok_iff.1 ok
    cases into <;> exact tensor?_withMemory ok
  | set target i v =>
    refine effect_settle fun _ ok => .within (fun _ => id) (fun _ => or_self_iff.not.2 id) ?_
    obtain ⟨into, _, ok⟩ := Outcome.bind_eq_ok_iff.1 ok
    split at ok
    · obtain rfl := Except.ok.inj ok
      rfl
    · cases ok
  | copy target source staged =>
    refine effect_settle fun _ ok => .within (fun _ => id) (fun _ => or_self_iff.not.2 id) ?_
    obtain ⟨_, _, ok⟩ := Outcome.bind_eq_ok_iff.1 ok
    obtain ⟨into, _, ok⟩ := Outcome.bind_eq_ok_iff.1 ok
    obtain ⟨out, _, ok⟩ := Outcome.bind_eq_ok_iff.1 ok
    cases staged with
    | false => exact tensor?_withMemory ok
    | true =>
      rw [if_pos rfl] at ok
      split at ok
      · exact tensor?_withMemory ok
      · cases ok
  | resize k s =>
    refine effect_settle fun _ ok => ?_
    obtain ⟨_, _, ok⟩ := Outcome.bind_eq_ok_iff.1 ok
    obtain ⟨x, _, ok⟩ := Outcome.bind_eq_ok_iff.1 ok
    obtain rfl := Except.ok.inj ok
    have places : w.Places k _ :=
      ⟨_, _, x.resize s w.memory, Storage.released_resizeKeeping _ _ _ _, rfl⟩
    exact .placed (fun _ => id) (by simp [Command.Revives, Command.Rebinds]) places
  | resizeDiscard k s =>
    refine effect_settle fun _ ok => ?_
    obtain ⟨_, _, ok⟩ := Outcome.bind_eq_ok_iff.1 ok
    obtain ⟨x, _, ok⟩ := Outcome.bind_eq_ok_iff.1 ok
    obtain rfl := Except.ok.inj ok
    have places : w.Places k _ :=
      ⟨_, _, x.resizeDiscard s w.memory, Storage.released_resizeKeeping _ _ _ _, rfl⟩
    exact .placed (fun _ => id) (by simp [Command.Revives, Command.Rebinds]) places
  | cloneFrom k source =>
    refine effect_settle fun _ ok => ?_
    obtain ⟨x, _, ok⟩ := Outcome.bind_eq_ok_iff.1 ok
    obtain ⟨y, _, ok⟩ := Outcome.bind_eq_ok_iff.1 ok
    obtain rfl := Except.ok.inj ok
    have places : w.Places k _ :=
      ⟨_, _, x.tensor.cloneFrom y w.memory, Storage.released_resizeKeeping _ _ _ _, rfl⟩
    exact .placed (fun _ => id) (by simp [Command.Revives, Command.Rebinds]) places
  | drop k => exact .dropped k

/-- A command does to the mark of a name what the history of the name says. -/
def Marks (name : String) (command : Command) (w : Workspace)
    (r : Except Failure Unit × Workspace) : Prop :=
  r.2.Moved name ↔
    Event.Takes name (command, r.1) ∨ w.Moved name ∧ ¬ Event.Renews name (command, r.1)

theorem marks_take {source : String} (x : AnyTensor) :
    Marks name (.derive k source .take) w
      (.ok (), (w.put source x.tensor.take.2).put k x.tensor.take.1) := by
  have taken : x.tensor.take.1.isMovedFrom = false := rfl
  have left : x.tensor.take.2.isMovedFrom = true := rfl
  simp only [Marks, Event.Takes, Event.Renews, Command.Takes, Command.Revives, Command.Rebinds,
    moved_put, taken, left, true_and, false_or]
  by_cases here : name = k
  · simp [here]
  · by_cases there : name = source
    · obtain rfl := there
      simp [here, Ne.symm here]
    · simp [here, there, Ne.symm here, Ne.symm there]

theorem Effect.marks {command : Command} {r : Except Failure Unit × Workspace}
    (effect : w.Effect command r) (name : String) : Marks name command w r := by
  cases effect with
  | failed same => simp [Marks, Event.Takes, Event.Renews, moved_congr same]
  | within taken renewed same =>
    simp [Marks, Event.Takes, Event.Renews, moved_congr same, taken, renewed]
  | placed taken renewed places =>
    simp [Marks, Event.Takes, Event.Renews, places.moved_iff, taken, renewed]
  | taken x => exact marks_take x
  | dropped k =>
    have erased : (w.erase k).Moved name ↔ w.Moved name ∧ k ≠ name := by
      unfold Moved erase
      by_cases here : name = k
      · simp [here]
      · simp [here, Ne.symm here]
    simp [Marks, erased, Event.Takes, Event.Renews, Command.Takes, Command.Revives, Command.Rebinds]

def trace [Numerics] (w : Workspace) (c : ExecConfig) : List Command → List Event
  | [] => []
  | command :: rest => (command, (w.run c command).1) :: trace (w.run c command).2 c rest

theorem trace_append_singleton [Numerics] (w : Workspace) (c : ExecConfig) (commands : List Command)
    (command : Command) :
    w.trace c (commands ++ [command]) =
      w.trace c commands ++ [(command, ((w.after c commands).run c command).1)] := by
  induction commands generalizing w with
  | nil => rfl
  | cons first rest ih =>
    simp only [List.cons_append, trace, ih]
    rfl

theorem after_append_singleton [Numerics] (w : Workspace) (c : ExecConfig) (commands : List Command)
    (command : Command) :
    w.after c (commands ++ [command]) = ((w.after c commands).run c command).2 :=
  List.foldl_concat _ w command commands

theorem moved_after [Numerics] (c : ExecConfig) (commands : List Command) (name : String) :
    (empty.after c commands).Moved name ↔
      Since (Event.Takes name) (Event.Renews name) (empty.trace c commands) := by
  induction commands using List.reverseRecOn with
  | nil =>
    refine iff_of_false ?_ ?_
    · rintro ⟨x, found, -⟩
      cases found
    · rintro ⟨before, event, after, split, -⟩
      cases List.append_eq_nil_iff.1 split.symm |>.2
  | append_singleton commands command ih =>
    rw [after_append_singleton, trace_append_singleton, since_append_singleton, ← ih]
    exact (effect_run _ c command).marks name

end Workspace

def movedFrom : Failure :=
  .error (.movedFrom .tensor)

def Reference.Names (name : String) : Reference n t → Prop
  | scalar _ => False
  | tensor k | view k _ | copied k _ => k = name

/-- The tensor of the name is an operand of the expression. -/
def Term.Mentions (e : Term (Reference n) t) (name : String) : Prop :=
  ∃ a ∈ e.leaves, a.2.Names name

-- Every leaf is replaced by what the action makes of it in some memory.
theorem Term.exists_of_mem_leaves {L M : DType → Type} {ε : Type}
    {f : {t : DType} → L t → StateT Memory (Except ε) (M t)} {e : Term L t} {m : Memory}
    {r : Term M t × Memory} (ok : (e.traverse f).run m = .ok r) {a : (t : DType) × L t}
    (member : a ∈ e.leaves) :
    ∃ b before after, (f a.2).run before = .ok (b, after) ∧ ⟨a.1, b⟩ ∈ r.1.leaves := by
  induction e generalizing m with
  | leaf own =>
    obtain rfl := List.mem_singleton.1 member
    simp only [Term.traverse, StateT.run_map] at ok
    obtain ⟨⟨b, after⟩, found, rfl⟩ := Outcome.map_eq_ok_iff.1 ok
    exact ⟨b, m, after, found, List.mem_singleton.2 rfl⟩
  | binary op l r ihl ihr =>
    simp only [Term.traverse, StateT.run_bind] at ok
    obtain ⟨_, left, ok⟩ := Outcome.bind_eq_ok_iff.1 ok
    obtain ⟨_, right, ok⟩ := Outcome.bind_eq_ok_iff.1 ok
    obtain rfl := Except.ok.inj ok
    rcases List.mem_append.1 member with member | member
    · obtain ⟨b, before, after, found, there⟩ := ihl left member
      exact ⟨b, before, after, found, List.mem_append_left _ there⟩
    · obtain ⟨b, before, after, found, there⟩ := ihr right member
      exact ⟨b, before, after, found, List.mem_append_right _ there⟩
  | unary op e ih =>
    simp only [Term.traverse, StateT.run_map] at ok
    obtain ⟨_, found, rfl⟩ := Outcome.map_eq_ok_iff.1 ok
    have operand := ih found member
    exact operand
  | cast t e ih =>
    simp only [Term.traverse, StateT.run_map] at ok
    obtain ⟨_, found, rfl⟩ := Outcome.map_eq_ok_iff.1 ok
    have operand := ih found member
    exact operand

theorem Span.live_of_assign [Numerics] {c : ExecConfig} {target : Span t n} {e : Expr n t}
    {m m' : Memory} (ok : target.assign c e m = .ok m') : e.Live := by
  obtain ⟨_, joined, _⟩ := Outcome.bind_eq_ok_iff.1 ok
  exact (Term.shape_eq_ok_iff.1 joined).1

theorem Span.live_of_update [Numerics] {c : ExecConfig} {op : BinaryOp} {target : Span t n}
    {e : Expr n t} {m m' : Memory} (ok : target.update c op e m = .ok m') : e.Live :=
  (Term.live_binary_iff.1 (live_of_assign ok)).2

namespace Workspace

/-- A step that fails and changes no tensor. Temporaries may be left in memory. -/
structure Fails (w : Workspace) (r : Except Failure Unit × Workspace) : Prop where
  failed : ∃ fault, r.1 = .error fault
  same : r.2.tensor? = w.tensor?
  extends_memory : w.memory.Extends r.2.memory

/-- What is refused of a tensor that was moved from. -/
structure Refused [Numerics] (w : Workspace) (c : ExecConfig) (name : String) (x : Tensor t n) :
    Prop where
  /-- A window, whatever the slices are. -/
  view : ∀ k slices, w.view t k name slices = .error movedFrom
  toList : x.toList c w.memory = .error (.movedFrom .tensor)
  toSpace : ∀ k space, w.run c (.derive k name (.toSpace space)) = (.error movedFrom, w)
  ofView : ∀ k slices, w.run c (.derive k name (.ofView slices)) = (.error movedFrom, w)
  fill : ∀ window (v : t.Elem), w.run c (.fill ⟨name, window⟩ v) = (.error movedFrom, w)
  update : ∀ op (e : Term (Reference n) t) r, w.expr c e = .ok r →
    w.run c (.update op ⟨name, none⟩ e) = (.error movedFrom, w)
  copyFrom : ∀ target staged into, w.typeOf target = .ok (t, n) →
    w.operand t n target = .ok into →
    w.run c (.copy target ⟨name, none⟩ staged) = (.error movedFrom, w)
  copyInto : ∀ source staged out, w.operand t n source = .ok out →
    w.run c (.copy ⟨name, none⟩ source staged) = (.error movedFrom, w)
  /-- An expression with the tensor as an operand, evaluated to any destination. -/
  operand : ∀ u k (e : Term (Reference k) u), e.Mentions name →
    (∀ target, w.Fails (w.run c (.assign target e))) ∧
      (∀ op target, w.Fails (w.run c (.update op target e))) ∧
      ∀ k space, w.Fails (w.run c (.create k space (.value e)))
  equal : ∀ k (other : Operand t k),
    (Operand.tensor x).equal c other w.memory = false ∧
      other.equal c (Operand.tensor x) w.memory = false

variable {w : Workspace} {c : ExecConfig} {name : String}

theorem settle_of_error {r : Except Failure Workspace} {fault : Failure}
    (failed : r = .error fault) : w.settle r = (.error fault, w) := by
  rw [failed]
  rfl

theorem fails_of_error {r : Except Failure Workspace} (never : ∀ w', r ≠ .ok w') :
    w.Fails (w.settle r) := by
  cases r with
  | ok w' => exact absurd rfl (never w')
  | error fault => exact ⟨⟨fault, rfl⟩, rfl, .refl w.memory⟩

section
variable [Numerics] {u : DType} {k : Nat} {e : Term (Reference k) u}
  (dead : ∀ r, w.expr c e = .ok r → ¬ r.1.Live)
include dead

theorem fails_assign (target : Target) : w.Fails (w.assign c target e) := by
  unfold assign
  split
  · exact ⟨⟨_, rfl⟩, rfl, .refl w.memory⟩
  · exact ⟨⟨_, rfl⟩, rfl, .refl w.memory⟩
  · rename_i y e m known resolved
    have all := extends_expr resolved
    have same : (w.put target.name y).tensor? = w.tensor? := by
      rw [put_self (tensor_eq_ok_iff.1 (tensor_of_operand known))]
    have failed : ∃ fault, y.assign c e m = (.error fault, y, m) := by
      rcases y.accepts_or_refuses e with ⟨s, accepts⟩ | ⟨fault, refuses⟩
      · exact absurd accepts.live (dead _ resolved)
      · exact ⟨fault, refuses.assign⟩
    obtain ⟨fault, failed⟩ := failed
    rw [failed]
    exact ⟨⟨_, rfl⟩, same, all⟩
  · rename_i s e m known resolved
    split
    · rename_i done
      exact absurd (Span.live_of_assign done) (dead _ resolved)
    · exact ⟨⟨_, rfl⟩, rfl, .refl w.memory⟩

theorem fails_update (op : BinaryOp) (target : Target) :
    w.Fails (w.run c (.update op target e)) := by
  refine fails_of_error fun w' ok => ?_
  obtain ⟨into, _, ok⟩ := Outcome.bind_eq_ok_iff.1 ok
  obtain ⟨⟨e, m⟩, resolved, ok⟩ := Outcome.bind_eq_ok_iff.1 ok
  refine dead _ resolved ?_
  cases into with
  | tensor y =>
    cases done : y.update c op e m with
    | error fault =>
      simp only [done] at ok
      cases ok
    | ok m' =>
      obtain ⟨s, _, done⟩ := Outcome.bind_eq_ok_iff.1 done
      exact Span.live_of_update done
  | window s =>
    cases done : s.update c op e m with
    | error fault =>
      simp only [done] at ok
      cases ok
    | ok m' => exact Span.live_of_update done

theorem fails_create (name : String) (space : Space) :
    w.Fails (w.run c (.create name space (.value e))) := by
  refine fails_of_error fun w' ok => ?_
  obtain ⟨⟨e, m⟩, resolved, ok⟩ := Outcome.bind_eq_ok_iff.1 ok
  rcases (Tensor.new (t := u) (n := k) space m).1.accepts_or_refuses e with
    ⟨s, accepts⟩ | ⟨fault, refuses⟩
  · exact dead _ resolved accepts.live
  · have failed : Tensor.ofExpr c space e m = .error fault := by
      unfold Tensor.ofExpr
      simp only [refuses.assign]
    simp only [failed] at ok
    cases ok

end

section
variable {x : Tensor t n} (found : w.tensor? name = some ⟨x⟩) (moved : x.isMovedFrom = true)
include found moved

omit found in
theorem not_live_of_moved : ¬ (Operand.tensor x).Live :=
  fun live => Bool.false_ne_true (live.symm.trans moved)

omit found in
theorem view_tensor_of_moved : x.view = .error (.movedFrom .tensor) :=
  Operand.view_of_not_live (not_live_of_moved moved)

theorem view_of_moved (k : Nat) (slices : List SliceStep) :
    w.view t k name slices = .error movedFrom := by
  simp [view, window, find_eq_ok_iff.2 found, view_tensor_of_moved moved, bind, Except.bind,
    Except.mapError, movedFrom]

omit moved in
theorem operand_whole : w.operand t n ⟨name, none⟩ = .ok (.tensor x) := by
  simp [operand, tensor_eq_ok_iff.2 found, bind, Except.bind, pure, Except.pure]

-- A leaf with the name is resolved to the tensor itself, or not at all.
theorem not_live_of_mentions [Numerics] {u : DType} {k : Nat} {e : Term (Reference k) u}
    (mentions : e.Mentions name) {r : Expr k u × Memory} (resolved : w.expr c e = .ok r) :
    ¬ r.1.Live := by
  obtain ⟨⟨v, a⟩, member, names⟩ := mentions
  obtain ⟨b, before, after, leaf, there⟩ := Term.exists_of_mem_leaves resolved member
  have refused (s : Span v k) (slices : List SliceStep) : w.view v k name slices ≠ .ok s := by
    by_cases same : t = v
    · subst same
      rw [view_of_moved found moved]
      nofun
    · simp [view, window, find_eq_ok_iff.2 found, same, bind, Except.bind, throw, throwThe,
        MonadExceptOf.throw]
  intro live
  have own := live _ there
  cases a with
  | scalar => cases names
  | tensor =>
    obtain rfl : _ = name := names
    rw [run_resolve_tensor] at leaf
    obtain ⟨y, known, same⟩ := Outcome.map_eq_ok_iff.1 leaf
    cases same
    cases Option.some.inj (found.symm.trans (tensor_eq_ok_iff.1 known))
    exact Bool.false_ne_true (own.symm.trans moved)
  | view =>
    obtain rfl : _ = name := names
    rw [run_resolve_view] at leaf
    obtain ⟨s, viewed, _⟩ := Outcome.map_eq_ok_iff.1 leaf
    exact refused s _ viewed
  | copied =>
    obtain rfl : _ = name := names
    rw [run_resolve_copied] at leaf
    obtain ⟨s, viewed, _⟩ := Outcome.map_eq_ok_iff.1 leaf
    exact refused s _ viewed

theorem refused_of_moved [Numerics] (c : ExecConfig) : w.Refused c name x where
  view := view_of_moved found moved
  toList := by
    rw [Tensor.toList, view_tensor_of_moved moved]
    rfl
  toSpace k space := by
    refine settle_of_error ?_
    simp [derive, find_eq_ok_iff.2 found, Tensor.toSpace, Tensor.ensureLive, moved, withTensor,
      bind, Except.bind, movedFrom]
  ofView k slices := by
    refine settle_of_error ?_
    simp [derive, find_eq_ok_iff.2 found, window, view_tensor_of_moved moved, bind, Except.bind,
      Except.mapError, movedFrom]
  fill window v := by
    refine settle_of_error ?_
    cases window with
    | none =>
      simp [Workspace.fill, typeOf, find_eq_ok_iff.2 found, operand_whole found, Tensor.fill,
        view_tensor_of_moved moved, withMemory, bind, Except.bind, pure, Except.pure, movedFrom]
    | some slices =>
      simp [Workspace.fill, typeOf, find_eq_ok_iff.2 found, operand, view_of_moved found moved,
        bind, Except.bind, pure, Except.pure]
  update op e r resolved := by
    refine settle_of_error ?_
    simp [Workspace.update, operand_whole found, resolved, Tensor.update,
      view_tensor_of_moved moved, withMemory, bind, Except.bind, movedFrom]
  copyFrom target staged into typed known := by
    refine settle_of_error ?_
    simp only [copy, typed, known, operand_whole found, bind, Except.bind]
    cases staged with
    | false =>
      have dead : ¬ ((Operand.tensor x).Live ∧ into.Live) :=
        fun live => not_live_of_moved moved live.1
      simp only [Bool.false_eq_true, ↓reduceIte, Operand.copy_of_not_live dead]
      rfl
    | true =>
      simp only [↓reduceIte, Operand.view_of_not_live (not_live_of_moved moved)]
      rfl
  copyInto source staged out known := by
    refine settle_of_error ?_
    have typed : w.typeOf ⟨name, none⟩ = .ok (t, n) := by
      simp [typeOf, find_eq_ok_iff.2 found, bind, Except.bind, pure, Except.pure]
    have refused (a : Operand t n) (m : Memory) :
        a.copy c (.tensor x) m = .error (.movedFrom .tensor) :=
      Operand.copy_of_not_live fun live => not_live_of_moved moved live.2
    simp only [copy, typed, operand_whole found, known, bind, Except.bind]
    cases staged with
    | false =>
      simp only [Bool.false_eq_true, ↓reduceIte, refused]
      rfl
    | true =>
      simp only [↓reduceIte]
      by_cases live : out.Live
      · simp only [Operand.view_of_live live, refused]
        rfl
      · simp only [Operand.view_of_not_live live]
        rfl
  operand u k e mentions := by
    have dead (r) (resolved : w.expr c e = .ok r) :=
      not_live_of_mentions found moved mentions resolved
    exact ⟨fails_assign dead, fails_update dead, fails_create dead⟩
  equal k other := by
    have viewed : (Operand.tensor x).view = .error (.movedFrom .tensor) :=
      view_tensor_of_moved moved
    constructor
    · simp [Operand.equal, viewed]
    · simp [Operand.equal, viewed]

end

/-- After any run, a tensor is marked if and only if its buffer was taken and nothing has renewed it
since, and every operation on the elements of a marked tensor is refused. -/
theorem after_movedFrom [Numerics] (c : ExecConfig) (commands : List Command) (name : String) :
    ((empty.after c commands).Moved name ↔
        Since (Event.Takes name) (Event.Renews name) (empty.trace c commands)) ∧
      ∀ t n (x : Tensor t n), (empty.after c commands).tensor? name = some ⟨x⟩ →
        x.isMovedFrom = true → (empty.after c commands).Refused c name x :=
  ⟨moved_after c commands name, fun _ _ _ found moved => refused_of_moved found moved c⟩

/-- A pair is handed over, and an assignment to what is left of it fails: three numbers do not go
with two. -/
def failedRevival : List Command :=
  [.create "a" .host (.listed (.ofFn fun _ => 2) [1, 2] : Contents 1 .i32), .derive "b" "a" .take,
    .create "three" .host (.unspecified (.ofFn fun _ => 3) : Contents 1 .i32),
    .assign ⟨"a", none⟩
      (.binary .add (.leaf (.tensor "b")) (.leaf (.tensor "three")) : Term (Reference 1) .i32)]

theorem after_movedFrom_failedRevival :
    Since (Event.Takes "a") (Event.Renews "a") (empty.trace oneThread failedRevival) ∧
      (empty.after oneThread failedRevival).run oneThread (.fill ⟨"a", none⟩ (t := .i32) 7) =
        (.error movedFrom, empty.after oneThread failedRevival) := by
  obtain ⟨marked, refused⟩ := after_movedFrom oneThread failedRevival "a"
  obtain ⟨x, found, moved⟩ : ∃ x : Tensor .i32 1,
      (empty.after oneThread failedRevival).tensor? "a" = some ⟨x⟩ ∧ x.isMovedFrom = true :=
    ⟨_, rfl, rfl⟩
  exact ⟨marked.1 ⟨_, found, moved⟩, (refused _ _ x found moved).fill none 7⟩

end Workspace

end Strided
