import Diagnostics.Proofs.Lockstep

/-!
# Lockstep up to names

An operation may hand out names that mean something only in the state it leaves, such as where a thing
was put. Two operations in lockstep then need not have equal results: that of the second one is that of
the first one with its names translated. What is done with the result afterwards goes in lockstep if it
does so for every result and its translation.
-/

set_option autoImplicit false

namespace Diagnostics.Action

variable {σ τ ρ ρ' α β γ δ : Type} {R : σ → τ → Prop} {Q : ρ → ρ' → Prop}

/-- From related states the operations fail alike, or the second one gives the translation of what the
first one gives. They lead to related states in any case. -/
def Renames (R : σ → τ → Prop) (k : α → β) (x : Action σ α) (y : Action τ β) : Prop :=
  ∀ s t, R s t → (y.perform t).1 = (x.perform s).1.map k ∧ R (x.perform s).2 (y.perform t).2

/-- Without a translation this is plain lockstep. -/
theorem renames_id {x : Action σ α} {y : Action τ α} : Renames R id x y ↔ Lockstep R x y := by
  unfold Renames Lockstep
  simp only [Except.map_id, id_eq, eq_comm]

/-- A value is translated. -/
theorem renames_pure (k : α → β) (a : α) : Renames R k (pure a) (pure (k a)) :=
  fun _ _ h => ⟨rfl, h⟩

/-- A fault needs no translation. -/
theorem renames_throw (k : α → β) (fault : Fault) :
    Renames R k (throw fault : Action σ α) (throw fault : Action τ β) :=
  fun _ _ h => ⟨rfl, h⟩

/-- A value that is there is translated. -/
theorem renames_ofExcept (k : α → β) (x : Except Fault α) :
    Renames R k (ofExcept x : Action σ α) (ofExcept (x.map k) : Action τ β) := by
  intro s t h
  rw [perform_ofExcept, perform_ofExcept]
  exact ⟨rfl, h⟩

/-- Two operations are translated one after the other. -/
theorem renames_bind {k : α → β} {l : γ → δ} {x : Action σ α} {y : Action τ β}
    {f : α → Action σ γ} {g : β → Action τ δ} (hxy : Renames R k x y)
    (hfg : ∀ a, Renames R l (f a) (g (k a))) : Renames R l (x >>= f) (y >>= g) := by
  intro s t h
  obtain ⟨hout, hafter⟩ := hxy s t h
  rw [perform_bind, perform_bind]
  rcases hx : x.perform s with ⟨fault | a, s'⟩ <;> rcases hy : y.perform t with ⟨fault' | b, t'⟩ <;>
    rw [hx, hy] at hout hafter <;> cases hout
  · exact ⟨rfl, hafter⟩
  · exact hfg a s' t' hafter

/-- Something in lockstep comes first. -/
theorem renames_bind_left {l : γ → δ} {x : Action σ α} {y : Action τ α} {f : α → Action σ γ}
    {g : α → Action τ δ} (hxy : Lockstep R x y) (hfg : ∀ a, Renames R l (f a) (g a)) :
    Renames R l (x >>= f) (y >>= g) :=
  renames_bind (renames_id.mpr hxy) hfg

/-- What is done with a name goes in lockstep if it does so for its translation. -/
theorem lockstep_bind_renamed {k : α → β} {x : Action σ α} {y : Action τ β} {f : α → Action σ γ}
    {g : β → Action τ γ} (hxy : Renames R k x y) (hfg : ∀ a, Lockstep R (f a) (g (k a))) :
    Lockstep R (x >>= f) (y >>= g) :=
  renames_id.mp (renames_bind hxy fun a => renames_id.mpr (hfg a))

/-- A choice is translated branch by branch. -/
theorem renames_ite {k : α → β} {c : Prop} [Decidable c] {x x' : Action σ α} {y y' : Action τ β}
    (h : Renames R k x y) (h' : Renames R k x' y') :
    Renames R k (if c then x else x') (if c then y else y') := by
  split
  · exact h
  · exact h'

/-- An operation that reads the state first is translated for related states. -/
theorem renames_get_bind {k : α → β} {f : σ → Action σ α} {g : τ → Action τ β}
    (h : ∀ s t, R s t → Renames R k (f s) (g t)) : Renames R k (get >>= f) (get >>= g) := by
  intro s t hst
  rw [perform_get_bind, perform_get_bind]
  exact h s t hst s t hst

/-- Operations on related parts. -/
theorem renames_onPart {k : α → β} {get : σ → ρ} {set : ρ → σ → σ} {get' : τ → ρ'}
    {set' : ρ' → τ → τ} {x : Action ρ α} {y : Action ρ' β} (hxy : Renames Q k x y)
    (hget : ∀ s t, R s t → Q (get s) (get' t))
    (hset : ∀ p q, Q p q → ∀ s t, R s t → R (set p s) (set' q t)) :
    Renames R k (onPart get set x) (onPart get' set' y) := by
  intro s t h
  obtain ⟨hout, hafter⟩ := hxy (get s) (get' t) (hget s t h)
  rw [perform_onPart, perform_onPart]
  exact ⟨hout, hset _ _ hafter s t h⟩

end Diagnostics.Action
