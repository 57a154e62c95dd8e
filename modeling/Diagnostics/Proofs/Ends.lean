import Diagnostics.Proofs.Outcome

/-!
# How operations end

An operation ends with a result or with a fault. `Action.Ends` says of an operation at a given state what
holds in either case, about the state it leaves as well; where it is a sequence, what is said of the
result of the first operation is that the second one ends as required.

`Action.Avoids` is about the faults alone, from whatever state the operation starts.
-/

set_option autoImplicit false

namespace Diagnostics.Action

variable {σ τ α β : Type} {s : σ} {ok ok' : α → σ → Prop} {failed failed' : Fault → σ → Prop}

/-- At a given state the operation gives a result and leaves a state with one property, or it fails,
and then the fault and the state have another one. -/
def Ends (x : Action σ α) (s : σ) (ok : α → σ → Prop) (failed : Fault → σ → Prop) : Prop :=
  match x.perform s with
  | (.ok a, s') => ok a s'
  | (.error fault, s') => failed fault s'

/-- If the operation gives a result, this and the state have the first property. -/
theorem Ends.of_ok {x : Action σ α} {s' : σ} {a : α} (h : Ends x s ok failed)
    (hperf : x.perform s = (.ok a, s')) : ok a s' := by
  unfold Ends at h
  rwa [hperf] at h

/-- If the operation fails, the fault and the state have the second property. -/
theorem Ends.of_error {x : Action σ α} {s' : σ} {fault : Fault} (h : Ends x s ok failed)
    (hperf : x.perform s = (.error fault, s')) : failed fault s' := by
  unfold Ends at h
  rwa [hperf] at h

/-- Both cases are said of all outcomes. -/
theorem ends_iff {x : Action σ α} : Ends x s ok failed ↔
    (∀ a s', x.perform s = (.ok a, s') → ok a s') ∧
      ∀ fault s', x.perform s = (.error fault, s') → failed fault s' := by
  constructor
  · intro h
    exact ⟨fun a s' hperf => h.of_ok hperf, fun fault s' hperf => h.of_error hperf⟩
  · rintro ⟨hok, hfailed⟩
    unfold Ends
    rcases hperf : x.perform s with ⟨fault | a, s'⟩
    · exact hfailed fault s' hperf
    · exact hok a s' hperf

/-- Both properties may be weakened. -/
theorem Ends.imp {x : Action σ α} (h : Ends x s ok failed) (hok : ∀ a s', ok a s' → ok' a s')
    (hfailed : ∀ fault s', failed fault s' → failed' fault s') : Ends x s ok' failed' := by
  rw [ends_iff] at h ⊢
  constructor
  · intro a s' hperf
    exact hok a s' (h.1 a s' hperf)
  · intro fault s' hperf
    exact hfailed fault s' (h.2 fault s' hperf)

/-- What holds in either case holds of the state that the operation leaves. -/
theorem Ends.total {x : Action σ α} {P : σ → Prop}
    (h : Ends x s (fun _ s' => P s') fun _ s' => P s') : P (x.perform s).2 := by
  unfold Ends at h
  rcases hperf : x.perform s with ⟨_ | _, s'⟩ <;> simpa only [hperf] using h

/-! ## Rules -/

/-- An operation that is known to give a result. -/
theorem ends_of_ok {x : Action σ α} {s' : σ} {a : α} (hperf : x.perform s = (.ok a, s'))
    (h : ok a s') : Ends x s ok failed := by
  unfold Ends
  rwa [hperf]

/-- Operations that do the same from two states end alike. -/
theorem ends_congr {x y : Action σ α} {t : σ} (hperf : x.perform s = y.perform t) :
    Ends x s ok failed ↔ Ends y t ok failed := by
  unfold Ends
  rw [hperf]

/-- A result that is given has to have the first property. -/
theorem ends_pure {a : α} (h : ok a s) : Ends (pure a) s ok failed := h

/-- A fault that is made has to have the second property. -/
theorem ends_throw {fault : Fault} (h : failed fault s) :
    Ends (throw fault : Action σ α) s ok failed := h

/-- A change has to make the property hold. -/
theorem ends_modify {f : σ → σ} {ok : PUnit → σ → Prop} (h : ok () (f s)) :
    Ends (modify f) s ok failed := h

/-- An outcome that is there already is looked at by cases. -/
theorem ends_ofExcept {x : Except Fault α} (hok : ∀ a, x = .ok a → ok a s)
    (hfailed : ∀ fault, x = .error fault → failed fault s) :
    Ends (ofExcept x : Action σ α) s ok failed := by
  unfold Ends
  rw [perform_ofExcept]
  cases x with
  | error fault => exact hfailed fault rfl
  | ok a => exact hok a rfl

/-- A sequence ends as required if its second operation does wherever the first one may have led. -/
theorem ends_bind {x : Action σ α} {f : α → Action σ β} {ok : β → σ → Prop}
    (h : Ends x s (fun a s' => Ends (f a) s' ok failed) failed) : Ends (x >>= f) s ok failed := by
  unfold Ends at h ⊢
  rw [perform_bind]
  rcases hperf : x.perform s with ⟨fault | a, s'⟩
  · rwa [hperf] at h
  · rwa [hperf] at h

/-- If it is known how the first operation ends, only the second one is left. -/
theorem ends_bind_of_ok {x : Action σ α} {f : α → Action σ β} {ok : β → σ → Prop} {s' : σ} {a : α}
    (hx : x.perform s = (.ok a, s')) (h : Ends (f a) s' ok failed) : Ends (x >>= f) s ok failed := by
  unfold Ends
  rwa [perform_bind_of_ok hx]

/-- What follows a look at the state is told from this state. -/
theorem ends_get_bind {f : σ → Action σ β} {ok : β → σ → Prop} (h : Ends (f s) s ok failed) :
    Ends (get >>= f) s ok failed := by
  unfold Ends
  rwa [perform_get_bind]

/-- What follows a change is told from the changed state. -/
theorem ends_modify_bind {g : σ → σ} {f : PUnit → Action σ β} {ok : β → σ → Prop}
    (h : Ends (f ()) (g s) ok failed) : Ends (modify g >>= f) s ok failed := by
  unfold Ends
  rwa [perform_modify_bind]

/-- Each case may use its condition. -/
theorem ends_ite {c : Prop} [Decidable c] {x y : Action σ α} (hx : c → Ends x s ok failed)
    (hy : ¬c → Ends y s ok failed) : Ends (if c then x else y) s ok failed := by
  split
  · rename_i h
    exact hx h
  · rename_i h
    exact hy h

/-- An operation on a part is told from how it ends on the part. -/
theorem ends_onPart {get : σ → τ} {set : τ → σ → σ} {x : Action τ α}
    (h : Ends x (get s) (fun a t => ok a (set t s)) fun fault t => failed fault (set t s)) :
    Ends (onPart get set x) s ok failed := by
  rw [ends_iff] at h ⊢
  constructor
  · intro a s' hperf
    rw [perform_onPart, Prod.mk.injEq] at hperf
    rw [← hperf.2]
    exact h.1 a _ (Prod.ext hperf.1 rfl)
  · intro fault s' hperf
    rw [perform_onPart, Prod.mk.injEq] at hperf
    rw [← hperf.2]
    exact h.2 fault _ (Prod.ext hperf.1 rfl)

/-! ## Faults that do not occur -/

/-- Whatever state it starts from, the operation never fails with certain faults. -/
def Avoids (bad : Fault → Prop) (x : Action σ α) : Prop :=
  ∀ s, Ends x s (fun _ _ => True) fun fault _ => ¬bad fault

section Avoids

variable {bad : Fault → Prop}

/-- A result is no fault. -/
theorem avoids_pure (a : α) : Avoids bad (pure a : Action σ α) :=
  fun _ => ends_pure trivial

/-- Another fault is not a bad one. -/
theorem avoids_throw {fault : Fault} (h : ¬bad fault) : Avoids bad (throw fault : Action σ α) :=
  fun _ => ends_throw h

/-- A look at the state is no fault. -/
theorem avoids_get : Avoids bad (get : Action σ σ) :=
  fun _ => trivial

/-- Neither is a change. -/
theorem avoids_modify (f : σ → σ) : Avoids bad (modify f : Action σ PUnit) :=
  fun _ => ends_modify trivial

/-- An outcome avoids the bad faults if it is none. -/
theorem avoids_ofExcept {x : Except Fault α} (h : ∀ fault, x = .error fault → ¬bad fault) :
    Avoids bad (ofExcept x : Action σ α) :=
  fun _ => ends_ofExcept (fun _ _ => trivial) h

/-- A sequence avoids what both of its operations avoid. -/
theorem avoids_bind {x : Action σ α} {f : α → Action σ β} (hx : Avoids bad x)
    (hf : ∀ a, Avoids bad (f a)) : Avoids bad (x >>= f) := by
  intro s
  exact ends_bind ((hx s).imp (fun a s' _ => hf a s') fun _ _ h => h)

/-- What is avoided in both cases is avoided. -/
theorem avoids_ite {c : Prop} [Decidable c] {x y : Action σ α} (hx : Avoids bad x)
    (hy : Avoids bad y) : Avoids bad (if c then x else y) :=
  fun s => ends_ite (fun _ => hx s) fun _ => hy s

/-- What an operation avoids, it avoids on a part as well. -/
theorem avoids_onPart {get : σ → τ} {set : τ → σ → σ} {x : Action τ α} (hx : Avoids bad x) :
    Avoids bad (onPart get set x) :=
  fun s => ends_onPart (hx (get s))

end Avoids

end Diagnostics.Action
