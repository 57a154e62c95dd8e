import Diagnostics.Proofs.Engine.Upkeep
import Diagnostics.Proofs.PolicyMap.Calls

/-!
# What holds between calls

Between calls that do not fail, the counts of policies are right, there is a current policy, and as long
as no file was entered it is the initial one as well. All public calls keep this.
-/

set_option autoImplicit false

namespace Diagnostics

open Diagnostics.Action

namespace PolicyMap

/-- The counts are right, and the current policy is the initial one until a file is entered. -/
structure Settled (base : Nat) (scopes : List PolicyRef) (map : PolicyMap) : Prop where
  counts : Counts base scopes map
  current : ∃ ref, map.current = some ref
  tied : map.files = [] → map.first = map.current

variable {base : Nat} {scopes : List PolicyRef} {map map' : PolicyMap} {ref : PolicyRef}

/-- A copy in the store keeps policies settled. -/
theorem Settled.copied (h : Settled base scopes map) (ref : PolicyRef) :
    Settled base scopes (map.copied ref) :=
  ⟨h.counts.add _, h.current, h.tied⟩

/-- A change in the store keeps policies settled. -/
theorem Settled.changed (h : Settled base scopes map) (ref : PolicyRef) (f : Policy → Policy) :
    Settled base scopes (map.changed ref f) :=
  ⟨h.counts.change ref f, h.current, h.tied⟩

/-- Once another policy is current, a file was entered or the policy is counted. -/
theorem Settled.replaceCurrent (h : Settled base scopes map)
    (href : base ≤ ref ∧ ref < map.store.size) : Settled base scopes (map.replaceCurrent ref) where
  counts := h.counts.replaceCurrent href.1 href.2
  current := ⟨ref, replaceCurrent_current map ref⟩
  tied hnil := by
    rw [replaceCurrent_files] at hnil
    rw [replaceCurrent_current, (replaceCurrent_of_nil hnil ref).2]

/-- A copy that was just made may be used. -/
theorem Settled.copy_bounds (h : Settled base scopes map) (ref : PolicyRef) :
    base ≤ map.store.size ∧ map.store.size < (map.copied ref).store.size := by
  obtain ⟨cur, hcur⟩ := h.current
  have hbounds := h.counts.current cur hcur
  refine ⟨Nat.le_trans hbounds.1 (Nat.le_of_lt hbounds.2), ?_⟩
  show map.store.size < (map.store.add _).2.size
  rw [PolicyStore.size_add]
  exact Nat.lt_succ_self _

/-- A private copy may be made current. -/
theorem Settled.replaceCurrent_copied (h : Settled base scopes map) (ref : PolicyRef) :
    Settled base scopes ((map.copied ref).replaceCurrent map.store.size) :=
  (h.copied ref).replaceCurrent (h.copy_bounds ref)

/-- A scope may hold the current policy. -/
theorem Settled.retainScope (h : Settled base scopes map) (hcur : map.current = some ref) :
    Settled base (ref :: scopes) { map with store := map.store.retain ref } := by
  have hbounds := h.counts.current ref hcur
  exact ⟨h.counts.retainScope hbounds.1 hbounds.2, h.current, h.tied⟩

/-- A scope may let its policy go. -/
theorem Settled.releaseScope (h : Settled base (ref :: scopes) map) :
    Settled base scopes { map with store := map.store.release ref } :=
  ⟨h.counts.releaseScope, h.current, h.tied⟩

/-- Looking a policy up keeps policies settled, whether or not it succeeds. -/
theorem Settled.lookup (h : Settled base scopes map) (service : LocationService)
    (table : FileTable) (loc : Location) :
    EndsIn true (Settled base scopes) map (lookup service table loc) := by
  by_cases hnil : map.files = []
  · exact endsIn_of_perform (perform_lookup_of_nil hnil) h
  · refine (steady_lookup service table loc map h.counts.steady).imp fun m hm => ?_
    have hcur : m.current = map.current := hm.current
    refine ⟨hm.counts, ?_, fun hnil' => absurd hnil' (hm.files_ne_nil hnil)⟩
    rw [hcur]
    exact h.current

/-- A change that is admitted keeps policies settled. -/
theorem Settled.append (h : Settled base scopes map) (href : base ≤ ref ∧ ref < map.store.size)
    {service : LocationService} {table : FileTable} {loc : Location}
    (hperf : (append service table loc ref).perform map = (.ok (), map')) :
    Settled base scopes map' := by
  have hm := (steady_append service table loc h.counts.steady href).of_ok hperf
  have hcur : map'.current = some ref := hm.current
  exact ⟨hm.counts, ⟨ref, hcur⟩, fun hnil => absurd hnil (append_files_ne_nil hperf)⟩

end PolicyMap

namespace Engine

/-- The policies of an engine are settled. -/
def Settled (e : Engine) : Prop :=
  ∃ base, PolicyMap.Settled base e.scopes e.policies

variable {loc : Option Location} {e e' : Engine} {ref : PolicyRef}

/-- Looking a policy up keeps an engine settled. -/
theorem settled_policyAt (loc : Option Location) : Keeps true Settled (policyAt loc) := by
  apply keeps_policyAt
  rintro service table l e ⟨base, h⟩
  exact endsIn_onPart (h.lookup service table l) fun map hm => ⟨base, hm⟩

/-- A private copy may be made the current policy of an engine. -/
theorem Settled.replaceCurrent_copied (h : e.Settled) (ref : PolicyRef) (outlet : Outlet) :
    Settled { e with
      policies := (e.policies.copied ref).replaceCurrent e.policies.store.size, outlet } := by
  obtain ⟨base, h⟩ := h
  exact ⟨base, h.replaceCurrent_copied ref⟩

/-- Making the current policy a private one keeps an engine settled. -/
theorem settled_ownCurrent : Keeps true Settled ownCurrent := by
  intro e he
  obtain ⟨base, h⟩ := he
  obtain ⟨cur, hcur⟩ := h.current
  by_cases hs : (e.policies.store.get cur).isShared = true
  · obtain ⟨outlet, hperf⟩ := perform_ownCurrent_shared hcur hs
    exact endsIn_of_perform hperf (Settled.replaceCurrent_copied ⟨base, h⟩ cur outlet)
  · exact endsIn_of_perform (perform_ownCurrent_alone hcur hs) ⟨base, h⟩

/-- Making the policy at a location a private one keeps an engine settled, if it succeeds. -/
theorem settled_ownAt (l : Location) : Keeps false Settled (ownAt l) := by
  refine keeps_of_ok fun e ref e' he hperf => ?_
  obtain ⟨service, base', e₁, -, hbase, hcase⟩ := ownAt_ok hperf
  have he₁ := (settled_policyAt (some l) e he).of_ok hbase
  rcases hcase with ⟨-, -, -, -, rfl⟩ | ⟨rfl, map, outlet, happend, rfl⟩
  · exact he₁
  · obtain ⟨base, h₁⟩ := he₁
    exact ⟨base, (h₁.copied base').append (h₁.copy_bounds base') happend⟩

/-! ## Scopes -/

/-- Opening a scope keeps an engine settled. -/
theorem settled_pushScope (loc : Option Location) : Keeps true Settled (pushScope loc) := by
  rintro e ⟨base, h⟩
  obtain ⟨cur, hcur⟩ := h.current
  obtain ⟨outlet, hperf⟩ := perform_pushScope hcur loc
  exact endsIn_of_perform hperf ⟨base, h.retainScope hcur⟩

/-- A saved policy may become current again. -/
theorem settled_restore {saved : PolicyRef} (h : e.Settled) (hsaved : saved ∈ e.scopes)
    (hperf : (restore saved loc).perform e = (.ok (), e')) :
    e'.Settled ∧ e'.scopes = e.scopes := by
  obtain ⟨base, h⟩ := h
  have hbounds := h.counts.scope_bounds hsaved
  rcases restore_ok hperf with ⟨-, rfl⟩ | ⟨-, ⟨l, service, map, -, -, happend, rfl⟩ | ⟨-, rfl⟩⟩
  · exact ⟨⟨base, h⟩, rfl⟩
  · exact ⟨⟨base, h.append hbounds happend⟩, rfl⟩
  · exact ⟨⟨base, h.replaceCurrent hbounds⟩, rfl⟩

/-- Closing a scope keeps an engine settled, if it succeeds. -/
theorem settled_popScope (loc : Option Location) : Keeps false Settled (popScope loc) := by
  refine keeps_of_ok fun e closed e' he hperf => ?_
  rcases popScope_ok hperf with ⟨-, outlet, rfl⟩ | ⟨saved, outer, e₁, outlet, hs, hrestore, rfl⟩
  · exact he
  · have hmem : saved ∈ e.scopes := by
      rw [hs]
      exact List.mem_cons_self
    obtain ⟨⟨base, h₁⟩, hscopes⟩ := settled_restore he hmem hrestore
    rw [hscopes, hs] at h₁
    exact ⟨base, h₁.releaseScope⟩

/-! ## All calls -/

/-- The policies after a reset: a new initial policy in the old store. -/
def restarted (e : Engine) : PolicyMap :=
  { store := (e.policies.store.add (initialPolicy e.context)).2.retain e.policies.store.size,
    first := some e.policies.store.size, current := some e.policies.store.size }

/-- The engine behind a reset, but for what the reset logs. -/
theorem perform_reset (e : Engine) :
    ∃ outlet, reset.perform e = (.ok (), { e.clearDraft with
      totals := {}, delayed := none, extensionsSilenced := 0, scopes := [],
      policies := restarted e, outlet }) :=
  ⟨_, rfl⟩

/-- After a reset the only policy that counts is the new initial one. -/
theorem settled_reset (e : Engine) : EndsIn true Settled e reset := by
  obtain ⟨outlet, hperf⟩ := perform_reset e
  refine endsIn_of_perform hperf ⟨e.policies.store.size, ?_, ⟨_, rfl⟩, fun _ => rfl⟩
  exact PolicyMap.counts_of_clear e.policies.store (initialPolicy e.context)

/-- An engine is settled when it starts. -/
theorem settled_start (e : Engine) : e.start.Settled :=
  (settled_reset e).of_total

/-- Both ways to a private policy keep an engine settled, if they succeed. -/
theorem settled_ownPolicy (loc : Option Location) : Keeps false Settled (ownPolicy loc) := by
  cases loc with
  | none => exact fun e he => (settled_ownCurrent e he).weaken
  | some l => exact settled_ownAt l

/-- All calls that do not fail leave settled policies. -/
theorem upkeep_settled : Upkeep false Settled where
  apart := by
    rintro e e' ⟨base, h⟩ ha
    refine ⟨base, ?_⟩
    rw [ha.policies, ha.scopes]
    exact h
  look loc e he := (settled_policyAt loc e he).weaken
  own := settled_ownPolicy
  change he hperf f := by
    obtain ⟨base, h⟩ := (settled_ownPolicy _ _ he).of_ok hperf
    exact ⟨base, h.changed _ f⟩
  push loc e he := (settled_pushScope loc e he).weaken
  pop := settled_popScope
  addFile name text includedAt := by
    refine keeps_bind keeps_get fun e => keeps_bind (keeps_ofExcept _) fun added => ?_
    exact keeps_modify fun _ h => h
  reset e _ := (settled_reset e).weaken

/-- Neither changes aside nor a look at the location in flight unsettle an engine. -/
theorem quiet_settled : Quiet false Settled :=
  upkeep_settled.lasting.quiet

/-- Reachable engines are settled, also if the front end makes calls while diagnostics are delivered. -/
theorem settled_of_reached {front : FrontEnd} (hfront : front.Makes fun _ => True) {e : Engine}
    (h : Reached front e) : e.Settled :=
  upkeep_settled.lasting.reached settled_start hfront h

end Engine

end Diagnostics
