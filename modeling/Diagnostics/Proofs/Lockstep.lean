import Diagnostics.Proofs.Outcome

/-!
# Two operations in lockstep

Two operations, each on a state of its own, go in lockstep if from related states they have the same
outcome and lead to related states, whether they fail or not. The rules follow the way operations are
put together.
-/

set_option autoImplicit false

namespace Diagnostics.Action

variable {σ τ ρ α β γ : Type} {R : σ → τ → Prop}

/-- From related states the operations have the same outcome and lead to related states. -/
def Lockstep (R : σ → τ → Prop) (x : Action σ α) (y : Action τ α) : Prop :=
  ∀ s t, R s t → (x.perform s).1 = (y.perform t).1 ∧ R (x.perform s).2 (y.perform t).2

/-- The same result on both sides. -/
theorem lockstep_pure (a : α) : Lockstep R (pure a) (pure a) :=
  fun _ _ h => ⟨rfl, h⟩

/-- The same fault on both sides. -/
theorem lockstep_throw (fault : Fault) :
    Lockstep R (throw fault : Action σ α) (throw fault : Action τ α) :=
  fun _ _ h => ⟨rfl, h⟩

/-- Changes that keep the states related. -/
theorem lockstep_modify {f : σ → σ} {g : τ → τ} (h : ∀ s t, R s t → R (f s) (g t)) :
    Lockstep R (modify f : Action σ PUnit) (modify g : Action τ PUnit) :=
  fun s t hst => ⟨rfl, h s t hst⟩

/-- The same outcome on both sides. -/
theorem lockstep_ofExcept (x : Except Fault α) :
    Lockstep R (ofExcept x : Action σ α) (ofExcept x : Action τ α) := by
  intro s t h
  rw [perform_ofExcept, perform_ofExcept]
  exact ⟨rfl, h⟩

/-- Sequences go in lockstep if their operations do, with the same result in between. -/
theorem lockstep_bind {x : Action σ α} {y : Action τ α} {f : α → Action σ β} {g : α → Action τ β}
    (hxy : Lockstep R x y) (hfg : ∀ a, Lockstep R (f a) (g a)) :
    Lockstep R (x >>= f) (y >>= g) := by
  intro s t h
  obtain ⟨hout, hafter⟩ := hxy s t h
  rw [perform_bind, perform_bind]
  rcases hx : x.perform s with ⟨fault | a, s'⟩ <;> rcases hy : y.perform t with ⟨fault' | b, t'⟩ <;>
    rw [hx, hy] at hout hafter <;> cases hout
  · exact ⟨rfl, hafter⟩
  · exact hfg a s' t' hafter

/-- The same choice on both sides. -/
theorem lockstep_ite {c : Prop} [Decidable c] {x x' : Action σ α} {y y' : Action τ α}
    (h : Lockstep R x y) (h' : Lockstep R x' y') :
    Lockstep R (if c then x else x') (if c then y else y') := by
  split
  · exact h
  · exact h'

/-- An operation that is done only under a condition, before another one. -/
theorem lockstep_when {c : Prop} [Decidable c] {x : Action σ γ} {x' : Action τ γ} {y : Action σ α}
    {y' : Action τ α} (hx : Lockstep R x x') (hy : Lockstep R y y') :
    Lockstep R (if c then (do let _ ← x; y) else y) (if c then (do let _ ← x'; y') else y') :=
  lockstep_ite (lockstep_bind hx fun _ => hy) hy

/-- Both fail alike, or both go on, each with a result of its own. -/
theorem lockstep_ofExcept_bind {x : Except Fault α} {y : Except Fault γ} {f : α → Action σ β}
    {g : γ → Action τ β}
    (h : (∃ fault, x = .error fault ∧ y = .error fault) ∨
      ∃ a b, x = .ok a ∧ y = .ok b ∧ Lockstep R (f a) (g b)) :
    Lockstep R (ofExcept x >>= f) (ofExcept y >>= g) := by
  rcases h with ⟨fault, rfl, rfl⟩ | ⟨a, b, rfl, rfl, hfg⟩
  · exact lockstep_throw fault
  · exact hfg

/-- The states are read, and what follows depends on them. -/
theorem lockstep_get_bind {f : σ → Action σ β} {g : τ → Action τ β}
    (h : ∀ s t, R s t → Lockstep R (f s) (g t)) : Lockstep R (get >>= f) (get >>= g) := by
  intro s t hst
  rw [perform_get_bind, perform_get_bind]
  exact h s t hst s t hst

/-- The same operation on parts that are the same. -/
theorem lockstep_onPart {get : σ → ρ} {set : ρ → σ → σ} {get' : τ → ρ} {set' : ρ → τ → τ}
    (x : Action ρ α) (hget : ∀ s t, R s t → get s = get' t)
    (hset : ∀ part s t, R s t → R (set part s) (set' part t)) :
    Lockstep R (onPart get set x) (onPart get' set' x) := by
  intro s t h
  rw [perform_onPart, perform_onPart, hget s t h]
  exact ⟨rfl, hset _ s t h⟩

/-- The same clean-up at the end. -/
theorem lockstep_ensuring {cleanUp : σ → σ} {cleanUp' : τ → τ} {x : Action σ α} {y : Action τ α}
    (hxy : Lockstep R x y) (h : ∀ s t, R s t → R (cleanUp s) (cleanUp' t)) :
    Lockstep R (ensuring cleanUp x) (ensuring cleanUp' y) := by
  intro s t hst
  obtain ⟨hout, hafter⟩ := hxy s t hst
  rw [perform_ensuring, perform_ensuring]
  exact ⟨hout, h _ _ hafter⟩

/-! ## Loops -/

/-- Loops over a list go in lockstep if their rounds do. -/
theorem lockstep_forM {f : α → Action σ PUnit} {g : α → Action τ PUnit}
    (h : ∀ a, Lockstep R (f a) (g a)) (l : List α) : Lockstep R (l.forM f) (l.forM g) := by
  induction l with
  | nil => exact lockstep_pure _
  | cons a l ih => exact lockstep_bind (h a) fun _ => ih

/-- The same for loops that may stop early. -/
theorem lockstep_forIn {f : α → β → Action σ (ForInStep β)} {g : α → β → Action τ (ForInStep β)}
    (h : ∀ a b, Lockstep R (f a b) (g a b)) (l : List α) (b : β) :
    Lockstep R (forIn l b f) (forIn l b g) := by
  induction l generalizing b with
  | nil => exact lockstep_pure b
  | cons a l ih =>
    rw [List.forIn_cons, List.forIn_cons]
    refine lockstep_bind (h a b) fun step => ?_
    cases step with
    | done b' => exact lockstep_pure b'
    | yield b' => exact ih b'

end Diagnostics.Action
