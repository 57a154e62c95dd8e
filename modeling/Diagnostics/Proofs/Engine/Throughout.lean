import Diagnostics.Proofs.Engine.Settled
import Diagnostics.Proofs.PolicyMap.Marks

/-!
# What all policies have in common

Policies are made by copying, and changed where they are found. So what the initial policy has, and what
every change keeps, all policies have that were made since the last reset, and `Upholds` says that an
engine is in such a state. Calls keep this also where they fail: at that moment a copy may be current
without being recorded, but it says what the policy said that it was made from.

The counts of the policies go along, since they tell which policies can be found at all.
-/

set_option autoImplicit false

namespace Diagnostics.Engine

open Diagnostics.Action

/-- The counts are right, and every policy that was made from a certain moment on has a property, which
may depend on the catalog. -/
structure Throughout (Q : Catalog → Policy → Prop) (base : Nat) (e : Engine) : Prop where
  counts : PolicyMap.Counts base e.scopes e.policies
  policy : ∀ ref, base ≤ ref → ref < e.policies.store.size → Q e.catalog (e.policies.policyOf ref)

/-- The counts are right, and all policies since the last reset have a property. -/
def Upholds (Q : Catalog → Policy → Prop) (e : Engine) : Prop :=
  ∃ base, Throughout Q base e

variable {Q : Catalog → Policy → Prop} {base : Nat} {loc : Option Location} {e e' : Engine}
  {ref : PolicyRef} {map : PolicyMap}

/-! ## Changes of the policies -/

/-- What lies apart from files and policies does not matter to policies, as long as the catalog is the
same. -/
theorem Throughout.apart (h : Throughout Q base e) (ha : Apart e e') : Throughout Q base e' where
  counts := by
    rw [ha.policies, ha.scopes]
    exact h.counts
  policy := by
    rw [ha.policies, ha.catalog]
    exact h.policy

/-- What lies apart does not matter to the policies since the last reset. -/
theorem Upholds.apart (h : e.Upholds Q) (ha : Apart e e') : e'.Upholds Q := by
  obtain ⟨base, h⟩ := h
  exact ⟨base, h.apart ha⟩

/-- Entries and counts may change. -/
theorem Throughout.alike {like : PolicyMap} (h : Throughout Q base { e with policies := like })
    (hc : PolicyMap.Counts base e.scopes map) (ha : PolicyMap.Alike like map) :
    Throughout Q base { e with policies := map } where
  counts := hc
  policy r hb hlt := by
    have hlt' : r < like.store.size := by
      rw [← ha.size]
      exact hlt
    show Q e.catalog (map.policyOf r)
    rw [show map.policyOf r = like.policyOf r from ha.policy r]
    exact h.policy r hb hlt'

/-- A copy of a policy that was made since then is one more such policy. -/
theorem Throughout.copied (h : Throughout Q base e)
    (href : base ≤ ref ∧ ref < e.policies.store.size) :
    Throughout Q base { e with policies := e.policies.copied ref } ∧
      base ≤ e.policies.store.size ∧ e.policies.store.size < (e.policies.copied ref).store.size := by
  have hsize : (e.policies.copied ref).store.size = e.policies.store.size + 1 :=
    PolicyStore.size_add ..
  refine ⟨⟨h.counts.add _, fun r hb hlt => ?_⟩, ?_, by omega⟩
  · have hlt' : r < (e.policies.copied ref).store.size := hlt
    have hle : r ≤ e.policies.store.size := by omega
    show Q e.catalog ((e.policies.store.add (e.policies.policyOf ref)).2.get r).policy
    rw [PolicyStore.policy_add _ hle]
    split
    · exact h.policy ref href.1 href.2
    · rename_i hne
      exact h.policy r hb (Nat.lt_of_le_of_ne hle hne)
  · exact Nat.le_trans href.1 (Nat.le_of_lt href.2)

/-- Which policy is current does not matter, if it is one of those. -/
theorem Throughout.replaceCurrent (h : Throughout Q base e)
    (href : base ≤ ref ∧ ref < e.policies.store.size) :
    Throughout Q base { e with policies := e.policies.replaceCurrent ref } where
  counts := h.counts.replaceCurrent href.1 href.2
  policy r hb hlt := by
    have hlt' : r < e.policies.store.size := by
      rw [← PolicyMap.size_replaceCurrent e.policies ref]
      exact hlt
    show Q e.catalog ((e.policies.replaceCurrent ref).store.get r).policy
    rw [PolicyMap.policy_replaceCurrent]
    exact h.policy r hb hlt'

/-- A policy may be changed if the result has the property again. -/
theorem Throughout.changed (h : Throughout Q base e) {f : Policy → Policy}
    (hf : base ≤ ref → ref < e.policies.store.size → Q e.catalog (f (e.policies.policyOf ref))) :
    Throughout Q base { e with policies := e.policies.changed ref f } where
  counts := h.counts.change ref f
  policy r hb hlt := by
    have hlt' : r < e.policies.store.size := by
      rw [← PolicyStore.size_change e.policies.store ref f]
      exact hlt
    show Q e.catalog ((e.policies.store.change ref f).get r).policy
    rw [PolicyStore.policy_change f hlt']
    split
    · rename_i heq
      subst heq
      exact hf hb hlt'
    · exact h.policy r hb hlt'

/-- A scope may hold one of the policies. -/
theorem Throughout.retainScope (h : Throughout Q base e)
    (href : base ≤ ref ∧ ref < e.policies.store.size) :
    Throughout Q base { e with
      policies := { e.policies with store := e.policies.store.retain ref },
      scopes := ref :: e.scopes } where
  counts := h.counts.retainScope href.1 href.2
  policy r hb hlt := by
    have hlt' : r < e.policies.store.size := by
      rw [← PolicyStore.size_retain e.policies.store ref]
      exact hlt
    show Q e.catalog ((e.policies.store.retain ref).get r).policy
    rw [PolicyStore.policy_retain]
    exact h.policy r hb hlt'

/-- The innermost scope may let its policy go. -/
theorem Throughout.releaseScope {outer : List PolicyRef} (h : Throughout Q base e)
    (hs : e.scopes = ref :: outer) :
    Throughout Q base { e with
      policies := { e.policies with store := e.policies.store.release ref }, scopes := outer } where
  counts := by
    have hc := h.counts
    rw [hs] at hc
    exact hc.releaseScope
  policy r hb hlt := by
    have hlt' : r < e.policies.store.size := by
      rw [← PolicyStore.size_release e.policies.store ref]
      exact hlt
    show Q e.catalog ((e.policies.store.release ref).get r).policy
    rw [PolicyStore.policy_release]
    exact h.policy r hb hlt'

/-! ## Steps of calls -/

/-- Logging makes no policy. -/
theorem upholds_debug (message : String) : Keeps true (Upholds Q) (debug message) :=
  keeps_modify fun _ h => h.apart ⟨rfl, rfl, rfl, rfl, rfl⟩

/-- Looking a policy up makes none. -/
theorem upholds_policyAt (loc : Option Location) : Keeps true (Upholds Q) (policyAt loc) := by
  apply keeps_policyAt
  rintro service table l e ⟨base, h⟩
  exact endsIn_onPart (PolicyMap.steady_lookup service table l _ h.counts.steady) fun map hm =>
    ⟨base, h.alike hm.counts hm.toAlike⟩

/-- The policy that is found was made since the last reset. -/
theorem Throughout.of_policyAt (h : Throughout Q base e)
    (hperf : (policyAt loc).perform e = (.ok ref, e')) :
    Throughout Q base e' ∧ base ≤ ref ∧ ref < e'.policies.store.size := by
  rcases policyAt_ok hperf with ⟨l, service, map, -, -, hlookup, rfl⟩ | ⟨-, hcur, rfl⟩
  · have hm := (PolicyMap.steady_lookup service e.files l _ h.counts.steady).of_ok hlookup
    exact ⟨h.alike hm.counts hm.toAlike, PolicyMap.lookup_bounds h.counts hlookup⟩
  · exact ⟨h, h.counts.current ref hcur⟩

/-- A change that is recorded, or refused, makes no policy. -/
theorem upholds_append (h : Throughout Q base e) (href : base ≤ ref ∧ ref < e.policies.store.size)
    (service : LocationService) (table : FileTable) (l : Location) :
    EndsIn true (Upholds Q) e (onPolicies (PolicyMap.append service table l ref)) := by
  have hset : Throughout Q base
      { e with policies := { e.policies with current := some ref, location := some l } } :=
    ⟨h.counts.setCurrent href.1 href.2 _, h.policy⟩
  exact endsIn_onPart (PolicyMap.steady_append service table l h.counts.steady href) fun _ hm =>
    ⟨base, hset.alike hm.counts hm.toAlike⟩

/-- A private copy of the current policy has the property too. -/
theorem upholds_ownCurrent : Keeps true (Upholds Q) ownCurrent := by
  rintro e ⟨base, h⟩
  rcases Option.eq_none_or_eq_some e.policies.current with hcur | ⟨cur, hcur⟩
  · exact endsIn_of_perform (perform_bind_of_error (perform_currentPolicy_none hcur)) ⟨base, h⟩
  · by_cases hs : (e.policies.store.get cur).isShared = true
    · obtain ⟨outlet, hperf⟩ := perform_ownCurrent_shared hcur hs
      obtain ⟨hcopied, hcopy⟩ := h.copied (h.counts.current cur hcur)
      exact endsIn_of_perform hperf
        ⟨base, (hcopied.replaceCurrent hcopy).apart ⟨rfl, rfl, rfl, rfl, rfl⟩⟩
    · exact endsIn_of_perform (perform_ownCurrent_alone hcur hs) ⟨base, h⟩

/-- A private copy of the policy at a location has the property too. -/
theorem upholds_ownAt (l : Location) : Keeps true (Upholds Q) (ownAt l) := by
  rintro e ⟨base, h⟩
  unfold ownAt
  apply endsIn_get_bind
  split
  · rename_i service hservice
    refine endsIn_bind (upholds_policyAt (some l) e ⟨base, h⟩) fun found e₁ hfound _ => ?_
    obtain ⟨h₁, hbounds⟩ := h.of_policyAt hfound
    apply endsIn_get_bind
    dsimp only
    split
    · exact endsIn_pure _ ⟨base, h₁⟩
    · obtain ⟨hcopied, hcopy⟩ := h₁.copied hbounds
      refine endsIn_bind_of_ok (perform_copyPolicy found e₁) (endsIn_get_bind ?_)
      refine endsIn_bind (upholds_append hcopied hcopy service _ l) fun _ e₂ _ h₂ => ?_
      exact keeps_bind (upholds_debug _) (fun _ => keeps_pure _) e₂ h₂
  · exact endsIn_throw _ ⟨base, h⟩

/-- Private policies have the property either way. -/
theorem upholds_ownPolicy (loc : Option Location) : Keeps true (Upholds Q) (ownPolicy loc) := by
  cases loc with
  | none => exact upholds_ownCurrent
  | some l => exact upholds_ownAt l

/-- Opening a scope makes no policy. -/
theorem upholds_pushScope (loc : Option Location) : Keeps true (Upholds Q) (pushScope loc) := by
  rintro e ⟨base, h⟩
  rcases Option.eq_none_or_eq_some e.policies.current with hcur | ⟨cur, hcur⟩
  · exact endsIn_of_perform (perform_bind_of_error (perform_currentPolicy_none hcur)) ⟨base, h⟩
  · obtain ⟨outlet, hperf⟩ := perform_pushScope hcur loc
    exact endsIn_of_perform hperf
      ⟨base, (h.retainScope (h.counts.current cur hcur)).apart ⟨rfl, rfl, rfl, rfl, rfl⟩⟩

/-- Recording a saved policy makes none. -/
theorem upholds_restore {saved : PolicyRef} (h : Throughout Q base e) (hsaved : saved ∈ e.scopes)
    (loc : Option Location) : EndsIn true (Upholds Q) e (restore saved loc) := by
  have hbounds := h.counts.scope_bounds hsaved
  unfold restore
  apply endsIn_get_bind
  split
  · split
    · exact upholds_append h hbounds _ _ _
    · exact endsIn_modify ⟨base, h.replaceCurrent hbounds⟩
  · exact endsIn_pure _ ⟨base, h⟩

/-- Closing a scope makes no policy. -/
theorem upholds_popScope (loc : Option Location) : Keeps true (Upholds Q) (popScope loc) := by
  rintro e ⟨base, h⟩
  unfold popScope
  apply endsIn_get_bind
  split
  · exact keeps_bind (upholds_debug _) (fun _ => keeps_pure _) e ⟨base, h⟩
  · rename_i saved outer hscopes
    have hmem : saved ∈ e.scopes := by
      rw [hscopes]
      exact List.mem_cons_self
    refine endsIn_bind (upholds_restore h hmem loc) fun _ e₁ hrestore h₁ => ?_
    obtain ⟨base₁, h₁⟩ := h₁
    have hopen : e₁.scopes = saved :: outer := (restore_unmoved hrestore).2.trans hscopes
    refine endsIn_modify_bind ?_
    have hreports : ∀ message message' : Engine → String, Keeps true (Upholds Q) (do
        debug (message (← get))
        debug (message' (← get))
        pure true) := fun _ _ =>
      keeps_bind keeps_get fun _ => keeps_bind (upholds_debug _) fun _ =>
        keeps_bind keeps_get fun _ => keeps_bind (upholds_debug _) fun _ => keeps_pure _
    exact hreports _ _ _ ⟨base₁, h₁.releaseScope hopen⟩

/-- Adding a file makes no policy. -/
theorem upholds_addFile (name text : String) (includedAt : Option Location) :
    Keeps true (Upholds Q) (addFile name text includedAt) := by
  refine keeps_bind keeps_get fun e => keeps_bind (keeps_ofExcept _) fun added => ?_
  exact keeps_modify fun _ ⟨base, h⟩ => ⟨base, h.counts, h.policy⟩

/-- After a reset there is only the initial policy. -/
theorem upholds_reset (e : Engine) (hinit : Q e.catalog (initialPolicy e.context)) :
    EndsIn true (Upholds Q) e reset := by
  obtain ⟨outlet, hperf⟩ := perform_reset e
  refine endsIn_of_perform hperf ⟨e.policies.store.size, ?_, fun r hb hlt => ?_⟩
  · exact PolicyMap.counts_of_clear e.policies.store (initialPolicy e.context)
  · have hsize : (restarted e).store.size = e.policies.store.size + 1 := by simp [restarted]
    have heq : r = e.policies.store.size := by
      have hlt' : r < (restarted e).store.size := hlt
      omega
    subst heq
    show Q e.catalog ((restarted e).store.get e.policies.store.size).policy
    unfold restarted
    rw [PolicyStore.policy_retain, PolicyStore.policy_add _ (Nat.le_refl _), if_pos rfl]
    exact hinit

/-! ## Changes -/

/-- A change that keeps the property of policies keeps it for all policies. -/
theorem upholds_changePolicy {f : Policy → Policy} (h : e.Upholds Q)
    (hf : ∀ policy, Q e.catalog policy → Q e.catalog (f policy)) :
    EndsIn true (Upholds Q) e (changePolicy loc f) := by
  unfold Engine.changePolicy
  refine endsIn_bind (upholds_ownPolicy loc e h) fun ref e₁ hown h₁ => endsIn_modify ?_
  obtain ⟨base, h₁⟩ := h₁
  refine ⟨base, h₁.changed fun hb hlt => ?_⟩
  have hcatalog := (ownPolicy_unmoved hown).1.catalog
  have hpolicy := h₁.policy ref hb hlt
  rw [hcatalog] at hpolicy ⊢
  exact hf _ hpolicy

/-- What holds of all policies whatever they say is kept by all calls. -/
theorem upkeep_upholds (hQ : ∀ catalog policy, Q catalog policy) : Upkeep true (Upholds Q) where
  apart h ha := h.apart ha
  look := upholds_policyAt
  own := upholds_ownPolicy
  change he hperf f := by
    obtain ⟨base, h⟩ := (upholds_ownPolicy _ _ he).of_ok hperf
    exact ⟨base, h.changed fun _ _ => hQ _ _⟩
  push := upholds_pushScope
  pop := upholds_popScope
  addFile := upholds_addFile
  reset e _ := upholds_reset e (hQ _ _)

end Diagnostics.Engine
