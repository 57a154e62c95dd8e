import Diagnostics.Action

/-!
# Outcomes of operations

`Action.perform` gives what an operation returns and the state it leaves. The first section computes
it step by step; `perform_bind_eq_ok` takes a sequence that did not fail apart.

Much of what is known about the engine has the form that an operation keeps a property of the state,
either whatever happens or provided that the operation does not fail. `Action.Keeps faulty P x` says
both, depending on `faulty`; its rules follow the way operations are put together.
-/

set_option autoImplicit false

namespace Diagnostics.Action

variable {σ τ α β : Type}

/-! ## Equations -/

/-- Giving a result changes nothing. -/
@[simp]
theorem perform_pure (a : α) (s : σ) : (pure a : Action σ α).perform s = (.ok a, s) := rfl

/-- Failing changes nothing. -/
@[simp]
theorem perform_throw (fault : Fault) (s : σ) :
    (throw fault : Action σ α).perform s = (.error fault, s) := rfl

/-- Looking at the state gives it. -/
@[simp]
theorem perform_get (s : σ) : (get : Action σ σ).perform s = (.ok s, s) := rfl

/-- The state is replaced. -/
@[simp]
theorem perform_set (s s' : σ) : (set s' : Action σ PUnit).perform s = (.ok (), s') := rfl

/-- The state is changed by a function. -/
@[simp]
theorem perform_modify (f : σ → σ) (s : σ) :
    (modify f : Action σ PUnit).perform s = (.ok (), f s) := rfl

/-- A result or a fault that is there already. -/
@[simp]
theorem perform_ofExcept (x : Except Fault α) (s : σ) :
    (ofExcept x : Action σ α).perform s = (x, s) := by
  cases x <;> rfl

/-- An operation given by what it does. -/
@[simp]
theorem perform_ofPerform (f : σ → Except Fault α × σ) (s : σ) :
    (ofPerform f).perform s = f s := rfl

/-- The clean-up is applied to the state that is left, whatever the outcome is. -/
@[simp]
theorem perform_ensuring (cleanUp : σ → σ) (x : Action σ α) (s : σ) :
    (ensuring cleanUp x).perform s = ((x.perform s).1, cleanUp (x.perform s).2) := rfl

/-- An operation on a part sees the part, and its state is put back into the whole. -/
@[simp]
theorem perform_onPart (get : σ → τ) (set : τ → σ → σ) (x : Action τ α) (s : σ) :
    (onPart get set x).perform s = ((x.perform (get s)).1, set (x.perform (get s)).2 s) := rfl

/-- A sequence goes on where its first operation ended, unless that failed. -/
theorem perform_bind (x : Action σ α) (f : α → Action σ β) (s : σ) :
    (x >>= f).perform s = match x.perform s with
      | (.ok a, s') => (f a).perform s'
      | (.error fault, s') => (.error fault, s') := by
  show (StateT.bind x (ExceptT.bindCont f)) s = match x s with
    | (.ok a, s') => f a s'
    | (.error fault, s') => (.error fault, s')
  unfold StateT.bind
  cases x s with
  | mk r s' => cases r <;> rfl

/-- A sequence goes on from where its first operation succeeded. -/
theorem perform_bind_of_ok {x : Action σ α} {f : α → Action σ β} {s s' : σ} {a : α}
    (h : x.perform s = (.ok a, s')) : (x >>= f).perform s = (f a).perform s' := by
  rw [perform_bind, h]

/-- A sequence fails where its first operation fails. -/
theorem perform_bind_of_error {x : Action σ α} {f : α → Action σ β} {s s' : σ} {fault : Fault}
    (h : x.perform s = (.error fault, s')) : (x >>= f).perform s = (.error fault, s') := by
  rw [perform_bind, h]

/-- What follows a look at the state is performed at this state. -/
@[simp]
theorem perform_get_bind (f : σ → Action σ β) (s : σ) :
    (get >>= f).perform s = (f s).perform s :=
  perform_bind_of_ok rfl

/-- What follows a change is performed at the changed state. -/
@[simp]
theorem perform_modify_bind (g : σ → σ) (f : PUnit → Action σ β) (s : σ) :
    (modify g >>= f).perform s = (f ()).perform (g s) :=
  perform_bind_of_ok rfl

/-- A change that is made only under a condition, before another operation. -/
theorem perform_when_modify {c : Prop} [Decidable c] (g : σ → σ) (x : Action σ α) (s : σ) :
    (if c then (do modify g; x) else x : Action σ α).perform s =
      x.perform (if c then g s else s) := by
  split
  · exact perform_modify_bind ..
  · rfl

/-- A value that is named by faults does not matter for results. -/
theorem naming_eq_ok [Limits] {value : Int} {x : Except Fault α} {a : α} :
    Fault.naming value x = .ok a ↔ x = .ok a := by
  unfold Fault.naming
  split
  · rfl
  · cases x with
    | ok a => rfl
    | error fault => exact iff_of_false (by rintro ⟨⟩) (by rintro ⟨⟩)

/-- What is made of its result does not matter for what an operation does. -/
theorem perform_return (x : Action σ α) (f : α → β) (s : σ) :
    (perform (do let a ← x; pure (f a) : Action σ β) s).2 = (x.perform s).2 := by
  rw [perform_bind]
  rcases x.perform s with ⟨_ | _, _⟩ <;> rfl

/-- Dropping the result does not matter for the state. -/
theorem perform_discard (x : Action σ α) (s : σ) :
    (perform (do let _ ← x : Action σ Unit) s).2 = (x.perform s).2 :=
  perform_return x (fun _ => ()) s

/-- An operation that does not fail gives a result. -/
theorem exists_ok_of_isOk {x : Action σ α} {s : σ} (h : (x.perform s).1.isOk = true) :
    ∃ a, x.perform s = (.ok a, (x.perform s).2) := by
  rcases hperf : x.perform s with ⟨fault | a, s'⟩
  · rw [hperf] at h
    cases h
  · exact ⟨a, rfl⟩

/-- A sequence that did not fail is two operations that did not fail. -/
theorem perform_bind_eq_ok {x : Action σ α} {f : α → Action σ β} {s s'' : σ} {b : β} :
    (x >>= f).perform s = (.ok b, s'') ↔
      ∃ a s', x.perform s = (.ok a, s') ∧ (f a).perform s' = (.ok b, s'') := by
  rw [perform_bind]
  rcases x.perform s with ⟨_ | a, s'⟩
  · simp
  · simp only [Prod.mk.injEq, Except.ok.injEq]
    constructor
    · intro h
      exact ⟨a, s', ⟨rfl, rfl⟩, h⟩
    · rintro ⟨_, _, ⟨rfl, rfl⟩, h⟩
      exact h

/-- A given outcome succeeds at its own state, if it is a result. -/
@[simp]
theorem perform_ofExcept_eq_ok {x : Except Fault α} {s s' : σ} {a : α} :
    (ofExcept x : Action σ α).perform s = (.ok a, s') ↔ x = .ok a ∧ s = s' := by
  simp

/-- A sequence that starts with a given outcome succeeds iff this is a result with which the rest does. -/
theorem perform_ofExcept_bind_eq_ok {x : Except Fault α} {f : α → Action σ β} {s s' : σ} {b : β} :
    (ofExcept x >>= f).perform s = (.ok b, s') ↔ ∃ a, x = .ok a ∧ (f a).perform s = (.ok b, s') := by
  cases x with
  | error fault => simp [perform_bind]
  | ok a => simp [perform_bind]

/-! ## Properties that operations keep -/

/-- At a given state the operation leaves one with a property; unless `faulty`, only if it does not
fail. -/
def EndsIn (faulty : Bool) (P : σ → Prop) (s : σ) (x : Action σ α) : Prop :=
  faulty = true ∨ (x.perform s).1.isOk = true → P (x.perform s).2

/-- From states with a property the operation leads to states with it. -/
def Keeps (faulty : Bool) (P : σ → Prop) (x : Action σ α) : Prop :=
  ∀ s, P s → EndsIn faulty P s x

section Rules

variable {faulty : Bool} {P Q : σ → Prop} {s : σ}

/-- After an operation that did not fail the property holds in any case. -/
theorem EndsIn.of_ok {x : Action σ α} {s' : σ} {a : α} (hx : EndsIn faulty P s x)
    (h : x.perform s = (.ok a, s')) : P s' := by
  unfold EndsIn at hx
  rw [h] at hx
  exact hx (.inr rfl)

/-- What holds even after faults holds of the state that is left. -/
theorem EndsIn.of_total {x : Action σ α} (hx : EndsIn true P s x) : P (x.perform s).2 :=
  hx (.inl rfl)

/-- What is kept in any case is kept if the operation does not fail. -/
theorem EndsIn.weaken {x : Action σ α} (hx : EndsIn true P s x) : EndsIn faulty P s x :=
  fun _ => hx.of_total

/-- A weaker property holds where a stronger one does. -/
theorem EndsIn.imp {x : Action σ α} (hx : EndsIn faulty P s x) (h : ∀ s', P s' → Q s') :
    EndsIn faulty Q s x :=
  fun hend => h _ (hx hend)

/-- It is enough to know how the operation is performed. -/
theorem endsIn_of_perform {x : Action σ α} {s' : σ} {r : Except Fault α}
    (h : x.perform s = (r, s')) (hP : P s') : EndsIn faulty P s x := by
  intro _
  rw [h]
  exact hP

/-- A result leaves the state as it is. -/
theorem endsIn_pure (a : α) (h : P s) : EndsIn faulty P s (pure a : Action σ α) :=
  fun _ => h

/-- A fault leaves the state as it is. -/
theorem endsIn_throw (fault : Fault) (h : P s) : EndsIn faulty P s (throw fault : Action σ α) :=
  fun _ => h

/-- A look at the state leaves it as it is. -/
theorem endsIn_get (h : P s) : EndsIn faulty P s (get : Action σ σ) :=
  fun _ => h

/-- After a change the changed state is what counts. -/
theorem endsIn_modify {f : σ → σ} (h : P (f s)) : EndsIn faulty P s (modify f : Action σ PUnit) :=
  fun _ => h

/-- An outcome that is there already leaves the state as it is. -/
theorem endsIn_ofExcept (x : Except Fault α) (h : P s) :
    EndsIn faulty P s (ofExcept x : Action σ α) := by
  intro _
  rw [perform_ofExcept]
  exact h

/-- The second operation of a sequence is looked at only where the first one may have ended. -/
theorem endsIn_bind {x : Action σ α} {f : α → Action σ β} (hx : EndsIn faulty P s x)
    (hf : ∀ a s', x.perform s = (.ok a, s') → P s' → EndsIn faulty P s' (f a)) :
    EndsIn faulty P s (x >>= f) := by
  intro hend
  rw [perform_bind] at hend ⊢
  rcases h : x.perform s with ⟨fault | a, s'⟩
  · simp only [h] at hend ⊢
    rcases hend with hend | hend
    · have hP := hx (.inl hend)
      rwa [h] at hP
    · cases hend
  · simp only [h] at hend ⊢
    exact hf a s' h (hx.of_ok h) hend

/-- If it is known how the first operation ends, only the second one is left. -/
theorem endsIn_bind_of_ok {x : Action σ α} {f : α → Action σ β} {s' : σ} {a : α}
    (hx : x.perform s = (.ok a, s')) (h : EndsIn faulty P s' (f a)) :
    EndsIn faulty P s (x >>= f) := by
  unfold EndsIn
  rw [perform_bind_of_ok hx]
  exact h

/-- What follows a look at the state is told from this state. -/
theorem endsIn_get_bind {f : σ → Action σ β} (h : EndsIn faulty P s (f s)) :
    EndsIn faulty P s (get >>= f) := by
  unfold EndsIn
  rw [perform_get_bind]
  exact h

/-- What follows a change is told from the changed state. -/
theorem endsIn_modify_bind {g : σ → σ} {f : PUnit → Action σ β}
    (h : EndsIn faulty P (g s) (f ())) : EndsIn faulty P s (modify g >>= f) := by
  unfold EndsIn
  rw [perform_modify_bind]
  exact h

/-- A clean-up that keeps the property may follow. -/
theorem endsIn_ensuring {cleanUp : σ → σ} {x : Action σ α} (hx : EndsIn faulty P s x)
    (h : ∀ s', P s' → P (cleanUp s')) : EndsIn faulty P s (ensuring cleanUp x) :=
  fun hend => h _ (hx hend)

/-- Whatever happens before it, a clean-up comes last. -/
theorem EndsIn.ensuring {cleanUp : σ → σ} {x : Action σ α} (hx : EndsIn true P s x) :
    ∃ s', P s' ∧ ((ensuring cleanUp x).perform s).2 = cleanUp s' :=
  ⟨_, hx.of_total, rfl⟩

/-- An operation on a part is told from what holds of the part. -/
theorem endsIn_onPart {get : σ → τ} {set : τ → σ → σ} {x : Action τ α} {R : τ → Prop}
    (hx : EndsIn faulty R (get s) x) (h : ∀ t, R t → P (set t s)) :
    EndsIn faulty P s (onPart get set x) :=
  fun hend => h _ (hx hend)

/-- What is kept if an operation does not fail is a matter of the runs that do not fail. -/
theorem keeps_of_ok {x : Action σ α}
    (h : ∀ s a s', P s → x.perform s = (.ok a, s') → P s') : Keeps false P x := by
  intro s hs hend
  rcases hperf : x.perform s with ⟨fault | a, s'⟩
  · rw [hperf] at hend
    rcases hend with hend | hend <;> cases hend
  · exact h s a s' hs hperf

/-- A result keeps every property. -/
theorem keeps_pure (a : α) : Keeps faulty P (pure a : Action σ α) :=
  fun _ h => endsIn_pure a h

/-- A fault keeps every property. -/
theorem keeps_throw (fault : Fault) : Keeps faulty P (throw fault : Action σ α) :=
  fun _ h => endsIn_throw fault h

/-- A look at the state keeps every property. -/
theorem keeps_get : Keeps faulty P (get : Action σ σ) :=
  fun _ h => endsIn_get h

/-- A change keeps what its function keeps. -/
theorem keeps_modify {f : σ → σ} (h : ∀ s, P s → P (f s)) :
    Keeps faulty P (modify f : Action σ PUnit) :=
  fun s hs => endsIn_modify (h s hs)

/-- An outcome that is there already keeps everything. -/
theorem keeps_ofExcept (x : Except Fault α) : Keeps faulty P (ofExcept x : Action σ α) :=
  fun _ h => endsIn_ofExcept x h

/-- A sequence keeps what both of its operations keep. -/
theorem keeps_bind {x : Action σ α} {f : α → Action σ β} (hx : Keeps faulty P x)
    (hf : ∀ a, Keeps faulty P (f a)) : Keeps faulty P (x >>= f) :=
  fun s h => endsIn_bind (hx s h) fun a s' _ h' => hf a s' h'

/-- What is kept after a look at the state may depend on this state. -/
theorem keeps_get_bind {f : σ → Action σ β} (h : ∀ s, P s → EndsIn faulty P s (f s)) :
    Keeps faulty P (get >>= f) :=
  fun s hs => endsIn_get_bind (h s hs)

/-- What is kept in both cases is kept. -/
theorem keeps_ite {c : Prop} [Decidable c] {x y : Action σ α} (hx : Keeps faulty P x)
    (hy : Keeps faulty P y) : Keeps faulty P (if c then x else y) := by
  split
  · exact hx
  · exact hy

/-- An operation that is done only under a condition, before another one. -/
theorem keeps_when {c : Prop} [Decidable c] {x : Action σ α} {y : Action σ β}
    (hx : Keeps faulty P x) (hy : Keeps faulty P y) :
    Keeps faulty P (if c then (do let _ ← x; y) else y) :=
  keeps_ite (keeps_bind hx fun _ => hy) hy

/-- What every round keeps, a loop over a list keeps. -/
theorem keeps_forM {f : α → Action σ PUnit} (h : ∀ a, Keeps faulty P (f a)) (l : List α) :
    Keeps faulty P (l.forM f) := by
  induction l with
  | nil => exact keeps_pure _
  | cons a l ih => exact keeps_bind (h a) fun _ => ih

/-- What every round keeps, a loop that may stop early keeps. -/
theorem keeps_forIn {f : α → β → Action σ (ForInStep β)} (h : ∀ a b, Keeps faulty P (f a b))
    (l : List α) (b : β) : Keeps faulty P (forIn l b f) := by
  induction l generalizing b with
  | nil => exact keeps_pure b
  | cons a l ih =>
    rw [List.forIn_cons]
    refine keeps_bind (h a b) fun step => ?_
    cases step with
    | done b' => exact keeps_pure b'
    | yield b' => exact ih b'

end Rules

end Diagnostics.Action
