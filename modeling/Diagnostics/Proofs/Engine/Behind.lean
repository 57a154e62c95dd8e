import Diagnostics.Proofs.Engine.Ownership
import Diagnostics.Proofs.PolicyMap.Behind
import Diagnostics.Proofs.Template.Abreast

/-!
# An engine behind a past

`Engine.behind` puts the past of another engine in front of one that knows nothing of it: policies that
nobody looks at any more, builders that were handed out, and a journal of what was delivered and asked.
All calls on an engine go in lockstep with those on the engine that is behind a past. They fail alike and
have the same results up to the names of policies and builders, which count from the end of the past.
-/

set_option autoImplicit false

namespace Diagnostics

open Diagnostics.Action

namespace Engine

/-- All policies that were ever made for an engine. -/
def made (e : Engine) : List SharedPolicy :=
  e.policies.store.toList

/-- The engine with the past of another one in front. -/
def behind (e past : Engine) : Engine :=
  { e with
    delivered := past.delivered ++ e.delivered
    requests := past.requests ++ e.requests
    builders := past.builders ++ e.builders
    policies := e.policies.behind past.made
    scopes := e.scopes.map (past.made.length + ·) }

/-- An engine, and the same engine behind a past. -/
def IsBehind (past e e' : Engine) : Prop :=
  e' = e.behind past

section Fields

variable (past e : Engine)

/-- The catalog is the one of the later engine. -/
@[simp]
theorem behind_catalog : (e.behind past).catalog = e.catalog := rfl

/-- So are the files. -/
@[simp]
theorem behind_files : (e.behind past).files = e.files := rfl

/-- So is the location service. -/
@[simp]
theorem behind_locations : (e.behind past).locations = e.locations := rfl

/-- So is the context. -/
@[simp]
theorem behind_context : (e.behind past).context = e.context := rfl

/-- So is the consumer. -/
@[simp]
theorem behind_consumer : (e.behind past).consumer = e.consumer := rfl

/-- So is the phase of reporting. -/
@[simp]
theorem behind_phase : (e.behind past).phase = e.phase := rfl

/-- So is the draft. -/
@[simp]
theorem behind_draft : (e.behind past).draft = e.draft := rfl

/-- So is the diagnostic that waits. -/
@[simp]
theorem behind_delayed : (e.behind past).delayed = e.delayed := rfl

/-- So are the totals. -/
@[simp]
theorem behind_totals : (e.behind past).totals = e.totals := rfl

/-- So is the count of silenced extensions. -/
@[simp]
theorem behind_extensionsSilenced : (e.behind past).extensionsSilenced = e.extensionsSilenced := rfl

/-- The policies are behind those that were made before. -/
@[simp]
theorem behind_policies : (e.behind past).policies = e.policies.behind past.made := rfl

/-- A scope holds a policy whose number is shifted by how many were made before. -/
@[simp]
theorem behind_scopes : (e.behind past).scopes = e.scopes.map (past.made.length + ·) := rfl

/-- As many scopes are open. -/
@[simp]
theorem scopeDepth_behind : (e.behind past).scopeDepth = e.scopeDepth :=
  List.length_map _

/-- A builder is active behind other builders iff it was active by its own number. -/
@[simp]
theorem isActive_behind (builder : Nat) :
    (e.behind past).isActive (past.builders.length + builder) = e.isActive builder := by
  simp [isActive, behind, List.getD_eq_getElem?_getD, List.getElem?_append_right]

end Fields

variable {past : Engine}

/-- A change that does the same behind a past goes in lockstep. -/
theorem behind_modify {f g : Engine → Engine} (h : ∀ e, g (e.behind past) = (f e).behind past) :
    Lockstep (IsBehind past) (modify f) (modify g) := by
  apply lockstep_modify
  rintro e _ rfl
  exact h e

/-- What follows a look at the state may depend on it, as long as it does the same behind the past. -/
theorem behind_get_bind {α : Type} {f g : Engine → Action Engine α}
    (h : ∀ e : Engine, Lockstep (IsBehind past) (f e) (g (e.behind past))) :
    Lockstep (IsBehind past) (get >>= f) (get >>= g) := by
  apply lockstep_get_bind
  rintro e _ rfl
  exact h e

/-- What follows a look at the engine is told from both engines, and the results are translated. -/
theorem behind_get_bind_renamed {α β : Type} {k : α → β} {f : Engine → Action Engine α}
    {g : Engine → Action Engine β}
    (h : ∀ e : Engine, Renames (IsBehind past) k (f e) (g (e.behind past))) :
    Renames (IsBehind past) k (get >>= f) (get >>= g) := by
  apply renames_get_bind
  rintro e _ rfl
  exact h e

/-- A debug line is written alike. -/
theorem behind_debug (message : String) :
    Lockstep (IsBehind past) (debug message) (debug message) :=
  behind_modify fun _ => rfl

/-- An operation on the policies whose results are renamed behind older policies. -/
theorem behind_onPolicies_renamed {α β : Type} {k : α → β} {x : Action PolicyMap α}
    {y : Action PolicyMap β} (h : Renames (PolicyMap.IsBehind past.made) k x y) :
    Renames (IsBehind past) k (onPolicies x) (onPolicies y) := by
  apply renames_onPart h
  · rintro e _ rfl
    rfl
  · rintro policies _ rfl e _ rfl
    rfl

/-- An operation on the policies that has the same results behind older policies. -/
theorem behind_onPolicies {α : Type} {x y : Action PolicyMap α}
    (h : Lockstep (PolicyMap.IsBehind past.made) x y) :
    Lockstep (IsBehind past) (onPolicies x) (onPolicies y) :=
  renames_id.mp (behind_onPolicies_renamed (renames_id.mpr h))

/-! ## Asking -/

/-- The policy that has to be there is found, or missed, alike. -/
theorem behind_demanded (found : Option PolicyRef) :
    Renames (IsBehind past) (past.made.length + ·) (demanded found)
      (demanded (found.map (past.made.length + ·))) := by
  cases found with
  | none => exact renames_throw _ _
  | some ref => exact renames_pure _ ref

/-- The same policy is found, at another place in the store. -/
theorem behind_policyAt (loc : Option Location) :
    Renames (IsBehind past) (past.made.length + ·) (policyAt loc) (policyAt loc) := by
  unfold policyAt
  apply behind_get_bind_renamed
  intro e
  simp only [behind_locations, behind_files, behind_policies, PolicyMap.behind_current]
  split
  · exact renames_bind (behind_onPolicies_renamed (PolicyMap.behind_lookup _ _ _)) behind_demanded
  · exact renames_bind (renames_pure (Option.map (past.made.length + ·)) _) behind_demanded

/-- What a policy says does not depend on its place in the store. -/
theorem behind_readPolicy (ref : PolicyRef) :
    Lockstep (IsBehind past) (readPolicy ref) (readPolicy (past.made.length + ref)) := by
  unfold readPolicy
  apply behind_get_bind
  intro e
  simp only [behind_policies, PolicyMap.behind_store, PolicyStore.get_behind]
  exact lockstep_pure _

/-- The mapping in effect for a diagnostic is the same. -/
theorem behind_mappingAt (id : Option Int) (loc : Option Location) :
    Lockstep (IsBehind past) (mappingAt id loc) (mappingAt id loc) := by
  unfold mappingAt
  refine lockstep_bind_renamed (behind_policyAt loc) fun ref => ?_
  refine lockstep_bind (behind_readPolicy ref) fun policy => ?_
  apply behind_get_bind
  intro e
  exact lockstep_ofExcept _

/-- The severity in effect for a diagnostic is the same. -/
theorem behind_effectiveSeverity (id : Option Int) (loc : Option Location) :
    Lockstep (IsBehind past) (effectiveSeverity id loc) (effectiveSeverity id loc) := by
  unfold effectiveSeverity
  refine lockstep_bind_renamed (behind_policyAt loc) fun ref => ?_
  refine lockstep_bind (behind_readPolicy ref) fun policy => ?_
  apply behind_get_bind
  intro e
  refine lockstep_bind (lockstep_ofExcept _) fun mapping => ?_
  exact lockstep_bind (lockstep_ofExcept _) fun entry => lockstep_pure _

/-- The level that a diagnostic is reported at is the same. -/
theorem behind_levelAt (id : Option Int) (loc : Option Location) :
    Lockstep (IsBehind past) (levelAt id loc) (levelAt id loc) := by
  unfold levelAt
  apply behind_get_bind
  intro e
  refine lockstep_bind (lockstep_ofExcept _) fun isNote => ?_
  exact lockstep_ite (lockstep_pure _) (behind_effectiveSeverity id loc)

/-! ## Changing severities -/

/-- The current policy is the same one under a shifted number. -/
theorem behind_currentPolicy :
    Renames (IsBehind past) (past.made.length + ·) currentPolicy currentPolicy := by
  unfold currentPolicy
  apply behind_get_bind_renamed
  intro e
  exact behind_demanded e.policies.current

/-- A policy is shared iff it was shared by its own number: nothing of the past holds it. -/
theorem behind_isShared (ref : PolicyRef) :
    Lockstep (IsBehind past) (isShared ref) (isShared (past.made.length + ref)) := by
  unfold isShared
  apply behind_get_bind
  intro e
  simp only [behind_policies, PolicyMap.behind_store, PolicyStore.get_behind]
  exact lockstep_pure _

/-- A copy gets the next number, on both sides. -/
theorem behind_copyPolicy (ref : PolicyRef) :
    Renames (IsBehind past) (past.made.length + ·) (copyPolicy ref)
      (copyPolicy (past.made.length + ref)) := by
  unfold copyPolicy
  apply behind_get_bind_renamed
  intro e
  simp only [behind_policies, PolicyMap.behind_store, PolicyStore.get_behind, PolicyStore.add_behind]
  exact renames_bind_left (behind_modify fun _ => rfl) fun _ => renames_pure _ e.policies.store.size

/-- The current policy is replaced alike. -/
theorem behind_replaceCurrent (ref : PolicyRef) :
    Lockstep (IsBehind past) (replaceCurrent ref) (replaceCurrent (past.made.length + ref)) := by
  refine behind_modify fun e => ?_
  rw [behind_policies, PolicyMap.replaceCurrent_behind]
  rfl

/-- The current policy is made one's own alike. -/
theorem behind_ownCurrent :
    Renames (IsBehind past) (past.made.length + ·) ownCurrent ownCurrent := by
  unfold ownCurrent
  refine renames_bind behind_currentPolicy fun ref => ?_
  refine renames_bind_left (behind_isShared ref) fun shared => renames_ite ?_ (renames_pure _ ref)
  refine renames_bind (behind_copyPolicy ref) fun copy => ?_
  refine renames_bind_left (behind_replaceCurrent copy) fun _ => ?_
  exact renames_bind_left (behind_debug _) fun _ => renames_pure _ copy

/-- The policy at a location is made one's own alike. -/
theorem behind_ownAt (loc : Location) :
    Renames (IsBehind past) (past.made.length + ·) (ownAt loc) (ownAt loc) := by
  unfold ownAt
  apply behind_get_bind_renamed
  intro e
  rw [behind_locations]
  cases e.locations with
  | none => exact renames_throw _ _
  | some service =>
    refine renames_bind (behind_policyAt (some loc)) fun base => ?_
    apply behind_get_bind_renamed
    intro e₁
    simp only [behind_policies, PolicyMap.behind_location, PolicyMap.behind_current,
      PolicyMap.behind_store, PolicyStore.get_behind, map_shift_eq_some]
    refine renames_ite (renames_pure _ base) ?_
    refine renames_bind (behind_copyPolicy base) fun copy => ?_
    apply behind_get_bind_renamed
    intro e₂
    refine renames_bind_left ?_ fun _ => renames_bind_left (behind_debug _) fun _ => renames_pure _ copy
    exact behind_onPolicies (PolicyMap.behind_append _ _ _ _)

/-- A change may modify the same policy. -/
theorem behind_ownPolicy (loc : Option Location) :
    Renames (IsBehind past) (past.made.length + ·) (ownPolicy loc) (ownPolicy loc) := by
  cases loc with
  | none => exact behind_ownCurrent
  | some loc => exact behind_ownAt loc

/-- A policy is changed in place under its shifted number. -/
theorem behind_change_store (ref : PolicyRef) (f : Policy → Policy) :
    Lockstep (IsBehind past)
      (modify fun e => { e with policies.store := e.policies.store.change ref f })
      (modify fun e =>
        { e with policies.store := e.policies.store.change (past.made.length + ref) f }) := by
  refine behind_modify fun e => ?_
  simp only [behind_policies, PolicyMap.behind_store, PolicyStore.change_behind]
  rfl

/-- A change of a policy, at a location or without one. -/
theorem behind_changePolicy (loc : Option Location) (f : Policy → Policy) :
    Lockstep (IsBehind past) (changePolicy loc f) (changePolicy loc f) :=
  lockstep_bind_renamed (behind_ownPolicy loc) fun ref => behind_change_store ref f

/-- The severity of a diagnostic is set alike. -/
theorem behind_setSeverity (id : Int) (severity : Severity) (loc : Option Location) :
    Lockstep (IsBehind past) (setSeverity id severity loc) (setSeverity id severity loc) := by
  unfold setSeverity
  apply behind_get_bind
  intro e
  refine lockstep_bind (lockstep_ofExcept _) fun entry => ?_
  refine lockstep_bind (lockstep_ofExcept _) fun mayBeAny => lockstep_ite (lockstep_throw _) ?_
  apply behind_get_bind
  intro e₁
  refine lockstep_ite (lockstep_throw _) ?_
  refine lockstep_bind (behind_mappingAt _ loc) fun current => ?_
  exact lockstep_bind (behind_changePolicy loc _) fun _ => behind_debug _

/-- A group has the same members. -/
theorem behind_groupMembers (flavor : Flavor) (group : Scalar) :
    Lockstep (IsBehind past) (groupMembers flavor group) (groupMembers flavor group) := by
  unfold groupMembers
  apply behind_get_bind
  intro e
  rw [behind_catalog]
  split
  · exact lockstep_pure _
  · exact lockstep_bind (behind_debug _) fun _ => lockstep_pure _
  · exact lockstep_bind (behind_debug _) fun _ => lockstep_pure _
  · exact lockstep_throw _

/-- A change of the members of a group, one by one. -/
theorem behind_members {flavor : Flavor} {group : Scalar} {x : Int → Action Engine PUnit}
    (hx : ∀ id, Lockstep (IsBehind past) (x id) (x id)) :
    Lockstep (IsBehind past)
      (do match ← groupMembers flavor group with
        | none => return false
        | some ids =>
          ids.forM x
          return true)
      (do match ← groupMembers flavor group with
        | none => return false
        | some ids =>
          ids.forM x
          return true) := by
  refine lockstep_bind (behind_groupMembers flavor group) fun members => ?_
  cases members with
  | none => exact lockstep_pure _
  | some ids => exact lockstep_bind (lockstep_forM hx ids) fun _ => lockstep_pure _

/-- The severity of a group is set alike. -/
theorem behind_setGroup (flavor : Flavor) (group : Scalar) (severity : Severity)
    (loc : Option Location) :
    Lockstep (IsBehind past) (setGroup flavor group severity loc)
      (setGroup flavor group severity loc) :=
  behind_members fun id => behind_setSeverity id severity loc

/-- The severity of all diagnostics is set alike. -/
theorem behind_setAll (flavor : Flavor) (severity : Severity) (loc : Option Location) :
    Lockstep (IsBehind past) (setAll flavor severity loc) (setAll flavor severity loc) := by
  unfold setAll
  apply behind_get_bind
  intro e
  refine lockstep_bind (lockstep_forIn (fun id _ => ?_) _ _) fun _ => lockstep_pure _
  refine lockstep_bind (lockstep_ofExcept _) fun mayBeAny => lockstep_ite ?_ (lockstep_pure _)
  exact lockstep_bind (behind_setSeverity id severity loc) fun _ => lockstep_pure _

/-- A mapping is changed alike. -/
theorem behind_changeMapping (id : Int) (f : Mapping → Mapping) :
    Lockstep (IsBehind past) (changeMapping id f) (changeMapping id f) := by
  unfold changeMapping
  refine lockstep_bind_renamed behind_ownCurrent fun ref => ?_
  refine lockstep_bind (behind_readPolicy ref) fun policy => ?_
  apply behind_get_bind
  intro e
  exact lockstep_bind (lockstep_ofExcept _) fun mapping => behind_change_store ref _

/-- The mappings of a group are changed alike. -/
theorem behind_changeGroup (group : Scalar) (f : Mapping → Mapping) :
    Lockstep (IsBehind past) (changeGroup group f) (changeGroup group f) :=
  behind_members fun id => behind_changeMapping id f

/-- A group is promoted to errors alike. -/
theorem behind_setGroupWarningAsError (group : Scalar) (enabled : Bool) :
    Lockstep (IsBehind past) (setGroupWarningAsError group enabled)
      (setGroupWarningAsError group enabled) :=
  lockstep_ite (behind_setGroup _ _ _ _) (behind_changeGroup _ _)

/-- A group is promoted to fatal errors alike. -/
theorem behind_setGroupErrorAsFatal (group : Scalar) (enabled : Bool) :
    Lockstep (IsBehind past) (setGroupErrorAsFatal group enabled)
      (setGroupErrorAsFatal group enabled) :=
  lockstep_ite (behind_setGroup _ _ _ _) (behind_changeGroup _ _)

/-- Extensions are let through again alike, or the complaint is the same. -/
theorem behind_unsilenceExtensions :
    Lockstep (IsBehind past) unsilenceExtensions unsilenceExtensions := by
  unfold unsilenceExtensions
  apply behind_get_bind
  intro e
  exact lockstep_ite (lockstep_throw _) (behind_modify fun _ => rfl)

/-! ## Scopes -/

/-- A scope is opened alike. -/
theorem behind_pushScope (loc : Option Location) :
    Lockstep (IsBehind past) (pushScope loc) (pushScope loc) := by
  unfold pushScope
  refine lockstep_bind_renamed behind_currentPolicy fun ref => ?_
  refine lockstep_bind (behind_modify fun e => ?_) fun _ => ?_
  · simp only [behind_policies, PolicyMap.behind_store, PolicyStore.retain_behind]
    rfl
  · apply behind_get_bind
    intro e
    rw [scopeDepth_behind]
    exact behind_debug _

/-- A policy that was saved is made current again under its shifted number. -/
theorem behind_restore (ref : PolicyRef) (loc : Option Location) :
    Lockstep (IsBehind past) (restore ref loc) (restore (past.made.length + ref) loc) := by
  unfold restore
  apply behind_get_bind
  intro e
  simp only [behind_policies, PolicyMap.behind_current, behind_locations, behind_files, ne_eq,
    map_shift_eq_some]
  refine lockstep_ite ?_ (lockstep_pure _)
  split
  · exact behind_onPolicies (PolicyMap.behind_append _ _ _ _)
  · exact behind_replaceCurrent ref

/-- A scope is closed alike. -/
theorem behind_popScope (loc : Option Location) :
    Lockstep (IsBehind past) (popScope loc) (popScope loc) := by
  unfold popScope
  apply behind_get_bind
  intro e
  rw [behind_scopes]
  cases e.scopes with
  | nil => exact lockstep_bind (behind_debug _) fun _ => lockstep_pure _
  | cons saved outer =>
    refine lockstep_bind (behind_restore saved loc) fun _ => ?_
    refine lockstep_bind (behind_modify fun e₁ => ?_) fun _ => ?_
    · simp only [behind_policies, PolicyMap.behind_store, PolicyStore.release_behind]
      rfl
    · apply behind_get_bind
      intro e₁
      rw [scopeDepth_behind]
      refine lockstep_bind (behind_debug _) fun _ => ?_
      apply behind_get_bind
      intro e₂
      rw [behind_policies, PolicyMap.dump_behind]
      exact lockstep_bind (behind_debug _) fun _ => lockstep_pure _

/-- A reset leaves the past behind for good, on both sides. -/
theorem behind_reset : Lockstep (IsBehind past) reset reset := by
  unfold reset
  refine lockstep_bind (behind_modify fun _ => rfl) fun _ => ?_
  apply behind_get_bind
  intro e
  apply behind_get_bind
  intro e₁
  simp only [behind_policies, PolicyMap.behind_store, PolicyStore.add_behind, behind_context]
  refine lockstep_bind (behind_modify fun _ => rfl) fun _ => ?_
  refine lockstep_bind ?_ fun _ => behind_debug _
  exact behind_onPolicies (PolicyMap.behind_appendFirst _)

end Engine

end Diagnostics
