import Diagnostics.Proofs.Engine.GenuineErrors
import Diagnostics.Proofs.Engine.Headers
import Diagnostics.Proofs.Engine.Verdicts
import Diagnostics.Proofs.Lockstep
import Diagnostics.Proofs.PolicyMap.Ahead

/-!
# Queries made early

A query about a file that was not entered enters it, and from then on the file has what it inherited at
that moment. So an engine that was asked is ahead of one that was not. Both answer the same as long as
the calls that follow spare what the files entered early would inherit in the engine that was not asked:
no change is recorded in front of their include points, and the current policy is not changed in place
where one of them would inherit it.
-/

set_option autoImplicit false

namespace Diagnostics

open Diagnostics.Action

namespace PolicyMap

variable {sources : List SourceFile} {base : Nat} {scopes : List PolicyRef} {early : Int → Prop}
  {map ahead : PolicyMap}

/-- Replacing the current policy of a map with files leaves its first policy alone. -/
theorem replaceCurrent_first (hne : map.files ≠ []) (ref : PolicyRef) :
    (map.replaceCurrent ref).first = map.first := by
  unfold PolicyMap.replaceCurrent
  rw [if_neg (by simp [hne])]

/-- A copy that is added to both stores leaves one map ahead of the other. -/
theorem Ahead.copied (h : Ahead sources base scopes early map ahead) (ref : PolicyRef) :
    Ahead sources base scopes early (map.copied ref) (ahead.copied ref) := by
  unfold PolicyMap.copied
  rw [h.policy]
  exact h.add _

/-- A copy that was just made may be used. -/
theorem Ahead.copy_bounds (h : Ahead sources base scopes early map ahead) (ref : PolicyRef) :
    base ≤ map.store.size ∧ map.store.size < (map.copied ref).store.size := by
  obtain ⟨first, hfirst⟩ := h.complete.initial
  have hbounds := h.counts.first_bounds hfirst
  refine ⟨Nat.le_trans hbounds.1 (Nat.le_of_lt hbounds.2), ?_⟩
  show map.store.size < (map.store.add _).2.size
  rw [PolicyStore.size_add]
  exact Nat.lt_succ_self _

end PolicyMap

namespace Engine

/-- An engine that was asked early, beside one that was not. Only the log and the policies differ. Changes
at certain places spare what the files entered early would inherit. -/
structure Beside (early : Int → Prop) (places : Option Location → Prop) (e e' : Engine) : Prop where
  rest : ∃ policies outlet, e' = { e with policies, outlet }
  ahead : ∃ base,
    PolicyMap.Ahead e.files.newestFirst base e.scopes early e.policies e'.policies
  placed : FileTable.WellPlaced e.files.newestFirst
  spares : ∀ place, places place → PolicyMap.Spares e.files.newestFirst early place e.policies

variable {early : Int → Prop} {places : Option Location → Prop} {e e' : Engine}
  {loc : Option Location}

/-- The catalogs are the same. -/
theorem Beside.catalog (h : Beside early places e e') : e'.catalog = e.catalog := by
  obtain ⟨_, _, rfl⟩ := h.rest
  rfl

/-- The files are the same. -/
theorem Beside.files (h : Beside early places e e') : e'.files = e.files := by
  obtain ⟨_, _, rfl⟩ := h.rest
  rfl

/-- The location services are the same. -/
theorem Beside.locations (h : Beside early places e e') : e'.locations = e.locations := by
  obtain ⟨_, _, rfl⟩ := h.rest
  rfl

/-- The same scopes are open. -/
theorem Beside.scopes (h : Beside early places e e') : e'.scopes = e.scopes := by
  obtain ⟨_, _, rfl⟩ := h.rest
  rfl

/-- Extensions are silenced as often. -/
theorem Beside.extensionsSilenced (h : Beside early places e e') :
    e'.extensionsSilenced = e.extensionsSilenced := by
  obtain ⟨_, _, rfl⟩ := h.rest
  rfl

/-- The current policies are the same. -/
theorem Beside.current (h : Beside early places e e') :
    e'.policies.current = e.policies.current := by
  obtain ⟨base, hahead⟩ := h.ahead
  exact hahead.current

/-- Nothing is said about changes any more. -/
theorem Beside.mono (h : Beside early places e e') : Beside early (fun _ => False) e e' :=
  { h with spares := fun _ hplace => hplace.elim }

/-- The logs do not matter. -/
theorem Beside.log (h : Beside early places e e') (outlet outlet' : Outlet) :
    Beside early places { e with outlet } { e' with outlet := outlet' } := by
  obtain ⟨⟨policies, _, rfl⟩, hahead, hw, hspares⟩ := h
  exact ⟨⟨policies, outlet', rfl⟩, hahead, hw, hspares⟩

/-- The log may say something else. -/
theorem lockstep_debug (message message' : String) :
    Lockstep (Beside early places) (debug message) (debug message') :=
  lockstep_modify fun _ _ h => h.log _ _

/-! ## Looking -/

/-- A location has the same policy in both engines; if one is found, it is in effect there afterwards. -/
theorem Beside.lookup (h : Beside early places e e') (service : LocationService) (l : Location) :
    ∃ found e₁ e₁', (onPolicies (PolicyMap.lookup service e.files l)).perform e = (found, e₁) ∧
      (onPolicies (PolicyMap.lookup service e'.files l)).perform e' = (found, e₁') ∧
      Beside early places e₁ e₁' ∧
      ∀ ref, found = .ok (some ref) → e₁.inEffect? l.file l.offset = some ref := by
  obtain ⟨⟨policies, outlet, rfl⟩, ⟨base, hahead⟩, hw, hspares⟩ := h
  obtain ⟨found, map, map', hperf, hperf', hahead', hfound, hkeeps⟩ := hahead.lookup hw service l
  unfold onPolicies
  rw [perform_onPart, perform_onPart, hperf, hperf']
  exact ⟨found, _, _, rfl, rfl, ⟨⟨map', outlet, rfl⟩, ⟨base, hahead'⟩, hw,
    fun place hplace => hkeeps place (hspares place hplace)⟩, hfound⟩

/-- Whether a policy that has to be there was found does not depend on the engine. -/
theorem exists_perform_demanded (found : Option PolicyRef) :
    ∃ result, (∀ e, (demanded found).perform e = (result, e)) ∧
      ∀ ref, result = .ok ref → found = some ref := by
  cases found with
  | none => exact ⟨.error .partMissing, fun _ => rfl, nofun⟩
  | some ref => exact ⟨.ok ref, fun _ => rfl, fun _ hok => congrArg some (Except.ok.inj hok)⟩

/-- Both find the same policy, or fail alike. With a way to read locations, what is found at one is in
effect there. -/
theorem Beside.policyAt (h : Beside early places e e') (loc : Option Location) :
    ∃ result e₁ e₁', (Engine.policyAt loc).perform e = (result, e₁) ∧
      (Engine.policyAt loc).perform e' = (result, e₁') ∧ Beside early places e₁ e₁' ∧
      ∀ l service ref, loc = some l → e.locations = some service → result = .ok ref →
        e₁.inEffect? l.file l.offset = some ref := by
  obtain ⟨result, hresult, -⟩ := exists_perform_demanded e.policies.current
  have hresult' := hresult e'
  rw [← h.current] at hresult'
  -- Without a way to read locations the current policy answers for all of them.
  rcases Option.eq_none_or_eq_some e.locations with hservice | ⟨service, hservice⟩
  · have hservice' := h.locations.trans hservice
    refine ⟨result, e, e', ?_, ?_, h, fun l service ref _ hsome => ?_⟩
    · unfold Engine.policyAt
      rw [perform_get_bind, hservice]
      cases loc <;> exact hresult e
    · unfold Engine.policyAt
      rw [perform_get_bind, hservice']
      cases loc <;> exact hresult'
    · rw [hservice] at hsome
      cases hsome
  cases loc with
  | none => exact ⟨result, e, e', hresult e, hresult', h, nofun⟩
  | some l =>
    obtain ⟨found, e₁, e₁', hperf, hperf', h₁, hfound⟩ := h.lookup service l
    unfold Engine.policyAt
    rw [perform_get_bind, perform_get_bind]
    simp only [h.locations, hservice]
    cases found with
    | error fault =>
      rw [perform_bind_of_error hperf, perform_bind_of_error hperf']
      exact ⟨_, e₁, e₁', rfl, rfl, h₁, nofun⟩
    | ok found =>
      obtain ⟨result, hresult, hsome⟩ := exists_perform_demanded found
      rw [perform_bind_of_ok hperf, perform_bind_of_ok hperf']
      refine ⟨result, e₁, e₁', hresult e₁, hresult e₁', h₁, fun l' _ ref hl _ hok => ?_⟩
      cases hl
      exact hfound ref (congrArg Except.ok (hsome ref hok))

/-- The policy at a location is the same. -/
theorem lockstep_policyAt (loc : Option Location) :
    Lockstep (Beside early places) (policyAt loc) (policyAt loc) := by
  intro e e' h
  obtain ⟨result, e₁, e₁', hperf, hperf', h₁, -⟩ := h.policyAt loc
  rw [hperf, hperf']
  exact ⟨rfl, h₁⟩

/-- A policy of the same name says the same. -/
theorem lockstep_readPolicy (ref : PolicyRef) :
    Lockstep (Beside early places) (readPolicy ref) (readPolicy ref) := by
  intro e e' h
  obtain ⟨base, hahead⟩ := h.ahead
  rw [perform_readPolicy, perform_readPolicy]
  exact ⟨congrArg Except.ok (hahead.policy ref).symm, h⟩

/-- A diagnostic has the same mapping. -/
theorem lockstep_mappingAt (id : Option Int) (loc : Option Location) :
    Lockstep (Beside early places) (mappingAt id loc) (mappingAt id loc) := by
  unfold mappingAt
  refine lockstep_bind (lockstep_policyAt loc) fun ref => ?_
  refine lockstep_bind (lockstep_readPolicy ref) fun policy => lockstep_get_bind fun e e' h => ?_
  rw [h.catalog]
  exact lockstep_ofExcept _

/-- A diagnostic has the same severity. -/
theorem lockstep_effectiveSeverity (id : Option Int) (loc : Option Location) :
    Lockstep (Beside early places) (effectiveSeverity id loc) (effectiveSeverity id loc) := by
  unfold effectiveSeverity
  refine lockstep_bind (lockstep_policyAt loc) fun ref => ?_
  refine lockstep_bind (lockstep_readPolicy ref) fun policy => lockstep_get_bind fun e e' h => ?_
  rw [h.catalog, h.extensionsSilenced]
  refine lockstep_bind (lockstep_ofExcept _) fun mapping => ?_
  exact lockstep_bind (lockstep_ofExcept _) fun entry => lockstep_pure _

/-- A diagnostic is reported at the same level. -/
theorem lockstep_levelAt (id : Option Int) (loc : Option Location) :
    Lockstep (Beside early places) (levelAt id loc) (levelAt id loc) := by
  unfold levelAt
  refine lockstep_get_bind fun e e' h => ?_
  rw [h.catalog]
  refine lockstep_bind (lockstep_ofExcept _) fun isNote => ?_
  exact lockstep_ite (lockstep_pure _) (lockstep_effectiveSeverity id loc)

/-- Queries have the same outcome. -/
theorem lockstep_query (query : Query) (loc : Option Location) :
    Lockstep (Beside early places) (query.perform loc) (query.perform loc) := by
  cases query with
  | policy => exact lockstep_bind (lockstep_policyAt loc) fun _ => lockstep_pure _
  | mapping id => exact lockstep_bind (lockstep_mappingAt id loc) fun _ => lockstep_pure _
  | severity id => exact lockstep_bind (lockstep_effectiveSeverity id loc) fun _ => lockstep_pure _
  | level id => exact lockstep_bind (lockstep_levelAt id loc) fun _ => lockstep_pure _

/-! ## Changing -/

/-- What a policy says may be changed in both engines. -/
theorem Beside.changed (h : Beside early places e e') (ref : PolicyRef) (f : Policy → Policy) :
    Beside early places { e with policies := e.policies.changed ref f }
      { e' with policies := e'.policies.changed ref f } := by
  obtain ⟨⟨policies, outlet, rfl⟩, ⟨base, hahead⟩, hw, hspares⟩ := h
  refine ⟨⟨policies.changed ref f, outlet, rfl⟩, ⟨base, hahead.change ref f⟩, hw,
    fun place hplace => (hspares place hplace).setStore fun r => ?_⟩
  exact Nat.le_of_eq (PolicyStore.refs_change ..).symm

/-- The current policy is shared in both engines or in neither, where a change would be one of that
policy. -/
theorem Beside.isShared_current (h : Beside early places e e') (hplace : places loc)
    {ref : PolicyRef} (hcurrent : e.policies.current = some ref)
    (hhere : ∀ l, loc = some l → e.policies.location = some l ∧
      e.inEffect? l.file l.offset = some ref) :
    (e'.policies.store.get ref).isShared = (e.policies.store.get ref).isShared := by
  obtain ⟨base, hahead⟩ := h.ahead
  refine hahead.isShared h.placed (hahead.counts.current ref hcurrent).1
    fun id hearly hnone hinherits => ?_
  by_contra halone
  exact (h.spares loc hplace).apart ref ⟨hcurrent, by simpa using halone, hhere⟩ id hearly hnone
    hinherits

/-- Afterwards a new policy is current, which no file would inherit. -/
theorem Beside.of_new {e₁ e₁' : Engine} (h : Beside early places e e')
    (hrest : ∃ policies outlet, e₁' = { e₁ with policies, outlet }) (hfiles : e₁.files = e.files)
    (hahead : ∃ base,
      PolicyMap.Ahead e.files.newestFirst base e₁.scopes early e₁.policies e₁'.policies)
    (hsame : PolicyMap.Inheriting e.files.newestFirst early e.policies e₁.policies)
    (hcurrent : e₁.policies.current = some e.policies.store.size) :
    Beside early places e₁ e₁' where
  rest := hrest
  ahead := by
    rw [hfiles]
    exact hahead
  placed := by
    rw [hfiles]
    exact h.placed
  spares place hplace := by
    rw [hfiles]
    refine (h.spares place hplace).of_current hsame hcurrent fun id _ hin => ?_
    -- What a file would inherit has a holder, so it was in the store already.
    obtain ⟨base, hcounts⟩ := h.ahead
    have hheld := PolicyMap.inEffect?_held hin
    exact Nat.lt_irrefl _ (hcounts.counts.held _ (Nat.add_pos_left hheld _)).2

/-- A change without a location may modify the same policy. -/
theorem lockstep_ownCurrent (hplaces : places none) :
    Lockstep (Beside early places) ownCurrent ownCurrent := by
  intro e e' h
  obtain ⟨base, hahead⟩ := h.ahead
  cases hcurrent : e.policies.current with
  | none =>
    have hcurrent' := h.current.trans hcurrent
    unfold ownCurrent
    rw [perform_bind_of_error (perform_currentPolicy_none hcurrent),
      perform_bind_of_error (perform_currentPolicy_none hcurrent')]
    exact ⟨rfl, h⟩
  | some cur =>
    have hcurrent' := h.current.trans hcurrent
    have hsame := h.isShared_current hplaces hcurrent nofun
    by_cases hshared : (e.policies.store.get cur).isShared = true
    · obtain ⟨log, hperf⟩ := perform_ownCurrent_shared hcurrent hshared
      obtain ⟨log', hperf'⟩ := perform_ownCurrent_shared hcurrent' (hsame.trans hshared)
      have hsize : e'.policies.store.size = e.policies.store.size := hahead.size
      rw [hperf, hperf', hsize]
      refine ⟨rfl, h.of_new ?_ rfl ⟨base, (hahead.copied cur).replaceCurrent (hahead.copy_bounds cur)⟩
        ?_ (PolicyMap.replaceCurrent_current _ _)⟩
      · obtain ⟨_, _, rfl⟩ := h.rest
        exact ⟨_, log', rfl⟩
      · have hfirst : ((e.policies.copied cur).replaceCurrent e.policies.store.size).first =
            (e.policies.copied cur).first :=
          PolicyMap.replaceCurrent_first (hahead.copied cur).started _
        exact PolicyMap.inheriting_congr (fun key => PolicyMap.file?_replaceCurrent _ _ key) hfirst
    · rw [perform_ownCurrent_alone hcurrent hshared,
        perform_ownCurrent_alone hcurrent' (by rw [hsame]; exact hshared)]
      exact ⟨rfl, h⟩

/-- A copy is recorded at a location in both engines. -/
theorem lockstep_recordCopy {l : Location} (hplaces : places (some l)) (service : LocationService)
    (found : PolicyRef) (message : String) :
    Lockstep (Beside early places)
      (do
        let copy ← copyPolicy found
        onPolicies (PolicyMap.append service (← get).files l copy)
        debug message
        return copy)
      (do
        let copy ← copyPolicy found
        onPolicies (PolicyMap.append service (← get).files l copy)
        debug message
        return copy) := by
  intro e e' h
  obtain ⟨base, hahead⟩ := h.ahead
  have hsize : e'.policies.store.size = e.policies.store.size := hahead.size
  have hcopied : PolicyMap.Inheriting e.files.newestFirst early e.policies
      (e.policies.copied found) := PolicyMap.inheriting_congr (fun _ => rfl) rfl
  obtain ⟨result, map, map', hperf, hperf', hahead', hsame, hcurrent⟩ :=
    (hahead.copied found).append h.placed service (hahead.copy_bounds found)
      ((h.spares (some l) hplaces).behind l rfl)
  have h₁ : Beside early places { e with policies := map } { e' with policies := map' } := by
    refine h.of_new ?_ rfl ⟨base, hahead'⟩ (hcopied.trans hsame) hcurrent
    obtain ⟨_, outlet, rfl⟩ := h.rest
    exact ⟨map', outlet, rfl⟩
  -- What happens to the policies happens to the engine, the log apart.
  have happend : ∀ (engine : Engine) (policies : PolicyMap) (files : FileTable),
      (PolicyMap.append service files l e.policies.store.size).perform (engine.policies.copied found) =
        (result, policies) →
      (onPolicies (PolicyMap.append service files l e.policies.store.size)).perform
        { engine with policies := engine.policies.copied found } =
          (result, { engine with policies }) := by
    intro engine policies files hmap
    unfold onPolicies
    rw [perform_onPart, hmap]
  rw [← h.files] at hperf'
  rw [perform_bind_of_ok (perform_copyPolicy found e), perform_bind_of_ok (perform_copyPolicy found e'),
    perform_get_bind, perform_get_bind]
  dsimp only
  rw [hsize]
  cases result with
  | error fault =>
    rw [perform_bind_of_error (happend e map e.files hperf),
      perform_bind_of_error (happend e' map' e'.files hperf')]
    exact ⟨rfl, h₁⟩
  | ok _ =>
    rw [perform_bind_of_ok (happend e map e.files hperf),
      perform_bind_of_ok (happend e' map' e'.files hperf')]
    exact lockstep_bind (lockstep_debug _ _) (fun _ => lockstep_pure _) _ _ h₁

/-- A change at a location may modify the same policy. -/
theorem lockstep_ownAt {l : Location} (hplaces : places (some l)) :
    Lockstep (Beside early places) (ownAt l) (ownAt l) := by
  intro e e' h
  unfold ownAt
  rw [perform_get_bind, perform_get_bind]
  simp only [h.locations]
  rcases Option.eq_none_or_eq_some e.locations with hservice | ⟨service, hservice⟩
  · rw [hservice]
    exact lockstep_throw _ e e' h
  obtain ⟨result, e₁, e₁', hperf, hperf', h₁, hfound⟩ := h.policyAt (some l)
  rw [hservice]
  cases result with
  | error fault =>
    rw [perform_bind_of_error hperf, perform_bind_of_error hperf']
    exact ⟨rfl, h₁⟩
  | ok found =>
    have hhere : e₁.inEffect? l.file l.offset = some found := hfound l service found rfl hservice rfl
    obtain ⟨base, hahead⟩ := h₁.ahead
    have hlocation : e₁'.policies.location = e₁.policies.location := hahead.location
    rw [perform_bind_of_ok hperf, perform_bind_of_ok hperf', perform_get_bind, perform_get_bind]
    -- Only in the first case does it matter whether the policy is shared.
    by_cases hown : e₁.policies.location = some l ∧ e₁.policies.current = some found
    · have hplace : ∀ l', some l = some l' → e₁.policies.location = some l' ∧
          e₁.inEffect? l'.file l'.offset = some found := by
        rintro _ ⟨⟩
        exact ⟨hown.1, hhere⟩
      rw [hlocation, h₁.current, h₁.isShared_current hplaces hown.2 hplace]
      exact lockstep_ite (lockstep_pure found) (lockstep_recordCopy hplaces service found _) _ _ h₁
    · have hcopy : ∀ shared : Bool, (decide (e₁.policies.location = some l) &&
          decide (e₁.policies.current = some found) && !shared) = false := by
        intro shared
        rw [← Bool.decide_and, decide_eq_false hown, Bool.false_and]
      rw [hlocation, h₁.current, hcopy, hcopy, if_neg Bool.false_ne_true]
      exact lockstep_recordCopy hplaces service found _ _ _ h₁

/-- At a place that is spared, the policy is made one's own alike. -/
theorem lockstep_ownPolicy (hplaces : places loc) :
    Lockstep (Beside early places) (ownPolicy loc) (ownPolicy loc) := by
  cases loc with
  | none => exact lockstep_ownCurrent hplaces
  | some l => exact lockstep_ownAt hplaces

/-- A policy is changed alike at a place that is spared. -/
theorem lockstep_changePolicy (hplaces : places loc) (f : Policy → Policy) :
    Lockstep (Beside early places) (changePolicy loc f) (changePolicy loc f) :=
  lockstep_bind (lockstep_ownPolicy hplaces) fun ref =>
    lockstep_modify fun _ _ h => h.changed ref f

/-- The severity of a diagnostic is set alike. -/
theorem lockstep_setSeverity (hplaces : places loc) (id : Int) (severity : Severity) :
    Lockstep (Beside early places) (setSeverity id severity loc) (setSeverity id severity loc) := by
  unfold setSeverity
  refine lockstep_get_bind fun e e' h => ?_
  rw [h.catalog]
  refine lockstep_bind (lockstep_ofExcept _) fun entry => ?_
  refine lockstep_bind (lockstep_ofExcept _) fun mayBeAny => lockstep_ite (lockstep_throw _) ?_
  refine lockstep_get_bind fun e₁ e₁' h₁ => ?_
  rw [h₁.locations]
  refine lockstep_ite (lockstep_throw _) ?_
  refine lockstep_bind (lockstep_mappingAt _ loc) fun current => ?_
  exact lockstep_bind (lockstep_changePolicy hplaces _) fun _ => lockstep_debug _ _

/-- A group has the same members. -/
theorem lockstep_groupMembers (flavor : Flavor) (group : Scalar) :
    Lockstep (Beside early places) (groupMembers flavor group) (groupMembers flavor group) := by
  unfold groupMembers
  refine lockstep_get_bind fun e e' h => ?_
  rw [h.catalog]
  split
  · exact lockstep_pure _
  · exact lockstep_bind (lockstep_debug _ _) fun _ => lockstep_pure _
  · exact lockstep_bind (lockstep_debug _ _) fun _ => lockstep_pure _
  · exact lockstep_throw _

/-- The severity of a group is set alike. -/
theorem lockstep_setGroup (hplaces : places loc) (flavor : Flavor) (group : Scalar)
    (severity : Severity) : Lockstep (Beside early places) (setGroup flavor group severity loc)
      (setGroup flavor group severity loc) := by
  unfold setGroup
  refine lockstep_bind (lockstep_groupMembers flavor group) fun members => ?_
  cases members with
  | none => exact lockstep_pure _
  | some ids =>
    exact lockstep_bind (lockstep_forM (fun id => lockstep_setSeverity hplaces id severity) ids)
      fun _ => lockstep_pure _

/-- The severity of all diagnostics of a flavor is set alike. -/
theorem lockstep_setAll (hplaces : places loc) (flavor : Flavor) (severity : Severity) :
    Lockstep (Beside early places) (setAll flavor severity loc) (setAll flavor severity loc) := by
  unfold setAll
  refine lockstep_get_bind fun e e' h => ?_
  rw [h.catalog]
  refine lockstep_bind (lockstep_forIn (fun id _ => ?_) _ _) fun _ => lockstep_pure _
  refine lockstep_bind (lockstep_ofExcept _) fun mayBeAny => lockstep_ite ?_ (lockstep_pure _)
  exact lockstep_bind (lockstep_setSeverity hplaces id severity) fun _ => lockstep_pure _

/-- Changes have the same outcome. -/
theorem lockstep_change (hplaces : places loc) (change : Change) :
    Lockstep (Beside early places) (change.perform loc) (change.perform loc) := by
  cases change with
  | severity id level => exact lockstep_setSeverity hplaces id level
  | group flavor name level =>
    exact lockstep_bind (lockstep_setGroup hplaces flavor name level) fun _ => lockstep_pure _
  | all flavor level =>
    exact lockstep_bind (lockstep_setAll hplaces flavor level) fun _ => lockstep_pure _
  | toggle which value => exact lockstep_changePolicy hplaces _
  | extension level => exact lockstep_changePolicy hplaces _

/-- A mapping is changed alike, if changes without a location are spared. -/
theorem lockstep_changeMapping (hplaces : places none) (id : Int) (f : Mapping → Mapping) :
    Lockstep (Beside early places) (changeMapping id f) (changeMapping id f) := by
  unfold changeMapping
  refine lockstep_bind (lockstep_ownCurrent hplaces) fun ref => ?_
  refine lockstep_bind (lockstep_readPolicy ref) fun policy => lockstep_get_bind fun e e' h => ?_
  rw [h.catalog]
  refine lockstep_bind (lockstep_ofExcept _) fun mapping => ?_
  exact lockstep_modify fun _ _ h => h.changed ref _

/-- The mappings of a group are changed alike. -/
theorem lockstep_changeGroup (hplaces : places none) (group : Scalar) (f : Mapping → Mapping) :
    Lockstep (Beside early places) (changeGroup group f) (changeGroup group f) := by
  unfold changeGroup
  refine lockstep_bind (lockstep_groupMembers _ group) fun members => ?_
  cases members with
  | none => exact lockstep_pure _
  | some ids =>
    exact lockstep_bind (lockstep_forM (fun id => lockstep_changeMapping hplaces id f) ids)
      fun _ => lockstep_pure _

/-- A group is promoted to errors alike. -/
theorem lockstep_setGroupWarningAsError (hplaces : places none) (group : Scalar) (enabled : Bool) :
    Lockstep (Beside early places) (setGroupWarningAsError group enabled)
      (setGroupWarningAsError group enabled) :=
  lockstep_ite (lockstep_setGroup hplaces _ _ _) (lockstep_changeGroup hplaces _ _)

/-- A group is promoted to fatal errors alike. -/
theorem lockstep_setGroupErrorAsFatal (hplaces : places none) (group : Scalar) (enabled : Bool) :
    Lockstep (Beside early places) (setGroupErrorAsFatal group enabled)
      (setGroupErrorAsFatal group enabled) :=
  lockstep_ite (lockstep_setGroup hplaces _ _ _) (lockstep_changeGroup hplaces _ _)

/-! ## Scopes -/

/-- A scope is opened alike; after that nothing is known to be spared. -/
theorem lockstep_pushScope (loc : Option Location) :
    Lockstep (Beside early fun _ => False) (pushScope loc) (pushScope loc) := by
  intro e e' h
  obtain ⟨base, hahead⟩ := h.ahead
  cases hcurrent : e.policies.current with
  | none =>
    have hcurrent' := h.current.trans hcurrent
    unfold pushScope
    rw [perform_bind_of_error (perform_currentPolicy_none hcurrent),
      perform_bind_of_error (perform_currentPolicy_none hcurrent')]
    exact ⟨rfl, h⟩
  | some cur =>
    have hcurrent' := h.current.trans hcurrent
    obtain ⟨log, hperf⟩ := perform_pushScope hcurrent loc
    obtain ⟨log', hperf'⟩ := perform_pushScope hcurrent' loc
    have hahead' := hahead.retainScope (hahead.counts.current cur hcurrent)
    rw [hperf, hperf']
    refine ⟨rfl, ?_, ⟨base, hahead'⟩, h.placed, fun _ hplace => hplace.elim⟩
    obtain ⟨_, _, rfl⟩ := h.rest
    exact ⟨_, log', rfl⟩

/-- How a saved policy becomes current again. -/
theorem perform_restore {saved : PolicyRef} (hne : e.policies.current ≠ some saved)
    (loc : Option Location) :
    (Engine.restore saved loc).perform e =
      (match loc, e.locations with
        | some l, some service => onPolicies (PolicyMap.append service e.files l saved)
        | _, _ => replaceCurrent saved).perform e := by
  unfold Engine.restore
  exact (perform_get_bind _ _).trans (congrArg (Action.perform · e) (if_pos hne))

/-- A saved policy becomes current again in both engines. -/
theorem Beside.restore {saved : PolicyRef} (h : Beside early places e e') (hsaved : saved ∈ e.scopes)
    (hbehind : ∀ l, loc = some l → e.policies.current ≠ some saved →
      PolicyMap.Behind e.files.newestFirst early l e.policies) :
    ∃ result e₁ e₁', (Engine.restore saved loc).perform e = (result, e₁) ∧
      (Engine.restore saved loc).perform e' = (result, e₁') ∧
      Beside early (fun _ => False) e₁ e₁' ∧ e₁.scopes = e.scopes := by
  obtain ⟨base, hahead⟩ := h.ahead
  have hbounds := hahead.counts.scope_bounds hsaved
  by_cases hsame : e.policies.current = some saved
  · have hidle : ∀ engine : Engine, engine.policies.current = some saved →
        (Engine.restore saved loc).perform engine = (.ok (), engine) := by
      intro engine hengine
      unfold Engine.restore
      rw [perform_get_bind, if_neg (not_not_intro hengine)]
      rfl
    exact ⟨.ok (), e, e', hidle e hsame, hidle e' (h.current.trans hsame), h.mono, rfl⟩
  · obtain ⟨policies, outlet, hrest⟩ := h.rest
    have hof : ∀ map map', PolicyMap.Ahead e.files.newestFirst base e.scopes early map map' →
        Beside early (fun _ => False) { e with policies := map } { e' with policies := map' } :=
      fun map map' hm => ⟨⟨map', outlet, by rw [hrest]⟩, ⟨base, hm⟩, h.placed, fun _ hno => hno.elim⟩
    have hreplaced := hof _ _ (hahead.replaceCurrent hbounds)
    rw [perform_restore hsame loc, perform_restore (by rwa [h.current]) loc, h.locations,
      h.files]
    rcases loc with _ | l
    · refine ⟨.ok (), _, _, ?_, ?_, hreplaced, rfl⟩ <;> rfl
    · rcases e.locations with _ | service
      · refine ⟨.ok (), _, _, ?_, ?_, hreplaced, rfl⟩ <;> rfl
      · obtain ⟨result, map, map', hperf, hperf', hahead', -⟩ :=
          hahead.append h.placed service hbounds (hbehind l rfl hsame)
        dsimp only
        unfold onPolicies
        rw [perform_onPart, perform_onPart, hperf, hperf']
        exact ⟨result, _, _, rfl, rfl, hof map map' hahead', rfl⟩

/-- Closing a scope has the same outcome. -/
theorem Beside.popScope (h : Beside early places e e')
    (hbehind : ∀ l saved, loc = some l → e.scopes.head? = some saved →
      e.policies.current ≠ some saved →
        PolicyMap.Behind e.files.newestFirst early l e.policies) :
    ((Engine.popScope loc).perform e).1 = ((Engine.popScope loc).perform e').1 ∧
      Beside early (fun _ => False) ((Engine.popScope loc).perform e).2
        ((Engine.popScope loc).perform e').2 := by
  have hreports : ∀ message message' : Engine → String,
      Lockstep (Beside early fun _ => False) (do
        debug (message (← get))
        debug (message' (← get))
        pure true) (do
        debug (message (← get))
        debug (message' (← get))
        pure true) := fun message message' =>
    lockstep_get_bind fun _ _ _ => lockstep_bind (lockstep_debug _ _) fun _ =>
      lockstep_get_bind fun _ _ _ => lockstep_bind (lockstep_debug _ _) fun _ => lockstep_pure _
  unfold Engine.popScope
  rw [perform_get_bind, perform_get_bind, h.scopes]
  cases hopen : e.scopes with
  | nil => exact lockstep_bind (lockstep_debug _ _) (fun _ => lockstep_pure _) e e' h.mono
  | cons saved outer =>
    have hsaved : saved ∈ e.scopes := by
      rw [hopen]
      exact List.mem_cons_self
    obtain ⟨result, e₁, e₁', hperf, hperf', h₁, hkept⟩ := h.restore hsaved fun l hloc =>
      hbehind l saved hloc (by rw [hopen]; rfl)
    dsimp only
    cases result with
    | error fault =>
      rw [perform_bind_of_error hperf, perform_bind_of_error hperf']
      exact ⟨rfl, h₁⟩
    | ok _ =>
      rw [perform_bind_of_ok hperf, perform_bind_of_ok hperf', perform_modify_bind,
        perform_modify_bind]
      -- What is logged afterwards shows the policies, so it may differ.
      obtain ⟨⟨policies, outlet, rfl⟩, ⟨base, hahead⟩, hw, -⟩ := h₁
      rw [hkept, hopen] at hahead
      exact hreports _ _ _ _
        ⟨⟨_, outlet, rfl⟩, ⟨base, hahead.releaseScope⟩, hw, fun _ hplace => hplace.elim⟩

/-- Closing a scope has the same outcome, and nothing is made of the answer. -/
theorem Beside.pop (h : Beside early places e e')
    (hbehind : ∀ l saved, loc = some l → e.scopes.head? = some saved →
      e.policies.current ≠ some saved →
        PolicyMap.Behind e.files.newestFirst early l e.policies) :
    ((LocatedCall.pop.perform loc).perform e).1 = ((LocatedCall.pop.perform loc).perform e').1 ∧
      Beside early (fun _ => False) ((LocatedCall.pop.perform loc).perform e).2
        ((LocatedCall.pop.perform loc).perform e').2 := by
  obtain ⟨hout, hafter⟩ := h.popScope hbehind
  have hpop : ∀ engine : Engine, (LocatedCall.pop.perform loc).perform engine =
      (((Engine.popScope loc).perform engine).1.map fun _ => (),
        ((Engine.popScope loc).perform engine).2) := by
    intro engine
    show (Engine.popScope loc >>= fun _ => pure ()).perform engine = _
    rw [perform_bind]
    rcases (Engine.popScope loc).perform engine with ⟨_ | _, _⟩ <;> rfl
  rw [hpop, hpop, hout]
  exact ⟨rfl, hafter⟩

/-- Extensions may be silenced in both engines. -/
theorem Beside.silenced (h : Beside early places e e') (count : Nat) :
    Beside early places { e with extensionsSilenced := count }
      { e' with extensionsSilenced := count } := by
  obtain ⟨⟨policies, outlet, rfl⟩, hahead, hw, hspares⟩ := h
  exact ⟨⟨policies, outlet, rfl⟩, hahead, hw, hspares⟩

/-- Extensions are silenced alike. -/
theorem lockstep_silenceExtensions :
    Lockstep (Beside early places) silenceExtensions silenceExtensions :=
  lockstep_modify fun e _ h => by
    rw [h.extensionsSilenced]
    exact h.silenced (e.extensionsSilenced + 1)

/-- Extensions are let through again alike, or the complaint is the same. -/
theorem lockstep_unsilenceExtensions :
    Lockstep (Beside early places) unsilenceExtensions unsilenceExtensions := by
  unfold unsilenceExtensions
  refine lockstep_get_bind fun e e' h => ?_
  rw [h.extensionsSilenced]
  refine lockstep_ite (lockstep_throw _) (lockstep_modify fun e₁ _ h₁ => ?_)
  rw [h₁.extensionsSilenced]
  exact h₁.silenced (e₁.extensionsSilenced - 1)

end Engine

/-! ## Runs -/

/-- Queries, changes and scopes, as long as they spare what certain files would inherit that were not
entered: changes do, and a scope whose end at a location restores another policy is closed behind their
include points. -/
def PlainCall.Spares (early : Int → Prop) (e : Engine) : PlainCall → Prop
  | located (.change _) loc =>
    PolicyMap.Spares e.files.newestFirst early (some loc) e.policies
  | located .pop loc => ∀ saved, e.scopes.head? = some saved → e.policies.current ≠ some saved →
    PolicyMap.Behind e.files.newestFirst early loc e.policies
  | unlocated (.call (.change _)) | unlocated (.groupWarningAsError _ _)
  | unlocated (.groupErrorAsFatal _ _) =>
    PolicyMap.Spares e.files.newestFirst early none e.policies
  | located .push _ | unlocated (.call .push) | unlocated (.call .pop) | silence | unsilence
  | query _ _ => True
  | report _ _ | stage _ | addFile _ _ _ | reset => False

namespace Engine

variable {early : Int → Prop} {e e' : Engine} {front : FrontEnd}

/-- The engine after several calls of any kind, also if some of them fail. -/
def afterCalls (e : Engine) (calls : List PlainCall) : Engine :=
  calls.foldl (fun e call => (call.perform.perform e).2) e

/-- All calls of a run spare what certain files would inherit, as long as these are not entered. -/
def SparedBy (early : Int → Prop) : Engine → List PlainCall → Prop
  | _, [] => True
  | e, call :: rest => call.Spares early e ∧ SparedBy early (call.perform.perform e).2 rest

/-- With what certain changes spare, an engine that was asked early is beside one that was not. -/
theorem Beside.at_place (h : Beside early (fun _ => False) e e') {place : Option Location}
    (hspares : PolicyMap.Spares e.files.newestFirst early place e.policies) :
    Beside early (place = ·) e e' :=
  { h with spares := fun _ hplace => hplace ▸ hspares }

/-- A change that spares those files has the same outcome in both engines. -/
theorem Beside.change (h : Beside early (fun _ => False) e e') {place : Option Location}
    {x : Action Engine Unit} (hx : Lockstep (Beside early (place = ·)) x x)
    (hspares : PolicyMap.Spares e.files.newestFirst early place e.policies) :
    (x.perform e).1 = (x.perform e').1 ∧
      Beside early (fun _ => False) (x.perform e).2 (x.perform e').2 := by
  obtain ⟨hout, hafter⟩ := hx e e' (h.at_place hspares)
  exact ⟨hout, hafter.mono⟩

/-- A call that spares those files has the same outcome in both engines. -/
theorem Beside.call (h : Beside early (fun _ => False) e e') {call : PlainCall}
    (hcall : call.Spares early e) :
    (call.perform.perform e).1 = (call.perform.perform e').1 ∧
      Beside early (fun _ => False) (call.perform.perform e).2 (call.perform.perform e').2 := by
  cases call with
  | located call loc =>
    cases call with
    | change change =>
      have hchange : Lockstep (Beside early (some loc = ·)) (change.perform (some loc))
          (change.perform (some loc)) := lockstep_change rfl change
      exact h.change hchange hcall
    | push => exact lockstep_pushScope (some loc) e e' h
    | pop =>
      refine Beside.pop h fun l saved hl => ?_
      obtain rfl := Option.some.inj hl
      exact hcall saved
  | unlocated call =>
    cases call with
    | call call =>
      cases call with
      | change change =>
        have hchange : Lockstep (Beside early (none = ·)) (change.perform none)
            (change.perform none) := lockstep_change rfl change
        exact h.change hchange hcall
      | push => exact lockstep_pushScope none e e' h
      | pop => exact Beside.pop h nofun
    | groupWarningAsError group enabled =>
      have hchange : Lockstep (Beside early (none = ·))
          (UnlocatedCall.groupWarningAsError group enabled).perform
          (UnlocatedCall.groupWarningAsError group enabled).perform :=
        lockstep_bind (lockstep_setGroupWarningAsError rfl group enabled) fun _ => lockstep_pure ()
      exact h.change hchange hcall
    | groupErrorAsFatal group enabled =>
      have hchange : Lockstep (Beside early (none = ·))
          (UnlocatedCall.groupErrorAsFatal group enabled).perform
          (UnlocatedCall.groupErrorAsFatal group enabled).perform :=
        lockstep_bind (lockstep_setGroupErrorAsFatal rfl group enabled) fun _ => lockstep_pure ()
      exact h.change hchange hcall
  | silence => exact lockstep_silenceExtensions e e' h
  | unsilence => exact lockstep_unsilenceExtensions e e' h
  | query query loc => exact lockstep_query query loc e e' h
  -- Reports, staging, files and resets spare nothing by definition.
  | report id loc => exact hcall.elim
  | stage staging => exact hcall.elim
  | addFile name text includedAt => exact hcall.elim
  | reset => exact hcall.elim

/-- An engine that was asked early stays beside one that was not. -/
theorem Beside.calls (h : Beside early (fun _ => False) e e') {calls : List PlainCall}
    (hspared : SparedBy early e calls) :
    Beside early (fun _ => False) (e.afterCalls calls) (e'.afterCalls calls) := by
  induction calls generalizing e e' with
  | nil => exact h
  | cons call rest ih => exact ih (h.call hspared.1).2 hspared.2

/-! ## An early query -/

/-- The files that an engine has entered. -/
def Entered (e : Engine) (id : Int) : Prop :=
  ∃ points, e.policies.file? (some id) = some points

/-- A query looks for a policy, or does nothing. -/
theorem query_ok {query : Query} {loc : Option Location}
    (hperf : (query.perform loc).perform e = (.ok (), e')) :
    e' = e ∨ ∃ ref, (policyAt loc).perform e = (.ok ref, e') := by
  cases query with
  | policy =>
    obtain ⟨ref, e₁, hlook, hdone⟩ := perform_bind_eq_ok.mp hperf
    cases hdone
    exact .inr ⟨ref, hlook⟩
  | mapping id =>
    obtain ⟨mapping, e₁, hmapping, hdone⟩ := perform_bind_eq_ok.mp hperf
    cases hdone
    obtain ⟨ref, e₂, hlook, hread⟩ := perform_bind_eq_ok.mp hmapping
    rw [perform_bind_of_ok (perform_readPolicy ref e₂), perform_get_bind,
      perform_ofExcept_eq_ok] at hread
    rw [← hread.2]
    exact .inr ⟨ref, hlook⟩
  | severity id =>
    obtain ⟨level, e₁, hlevel, hdone⟩ := perform_bind_eq_ok.mp hperf
    cases hdone
    obtain ⟨ref, _, _, hlook, -⟩ := effectiveSeverity_ok hlevel
    exact .inr ⟨ref, hlook⟩
  | level id =>
    obtain ⟨level, e₁, hlevel, hdone⟩ := perform_bind_eq_ok.mp hperf
    cases hdone
    rcases levelAt_ok hlevel with ⟨-, -, rfl⟩ | ⟨-, hseverity⟩
    · exact .inl rfl
    · obtain ⟨ref, _, _, hlook, -⟩ := effectiveSeverity_ok hseverity
      exact .inr ⟨ref, hlook⟩

/-- A query either leaves a reachable engine as it is or puts it beside the one that was not asked. -/
theorem beside_of_query (hfront : front.Makes fun _ => True) (h : Reached front e)
    (hw : FileTable.WellPlaced e.files.newestFirst) {query : Query} {loc : Option Location}
    (hperf : (query.perform loc).perform e = (.ok (), e')) :
    e' = e ∨ Beside e'.Entered (fun _ => False) e e' := by
  rcases query_ok hperf with hsame | ⟨ref, hlook⟩
  · exact .inl hsame
  rcases policyAt_ok hlook with ⟨l, service, map, -, -, hlookup, rfl⟩ | ⟨-, -, hsame⟩
  · by_cases hnil : e.policies.files = []
    · rw [PolicyMap.perform_lookup_of_nil hnil, Prod.mk.injEq] at hlookup
      exact .inl (by rw [← hlookup.2])
    · obtain ⟨base, horderly⟩ := orderly_of_reached hfront h hw
      obtain ⟨horderly', hdiscovers⟩ := horderly.lookup_ok hw hlookup
      refine .inr ⟨⟨map, e.outlet, rfl⟩, ⟨base, ?_⟩, hw, fun _ hplace => hplace.elim⟩
      exact PolicyMap.ahead_of_discovers hw horderly.complete horderly'.formed hdiscovers
        horderly.counts horderly'.counts hnil
  · exact .inl hsame

/-- A query that does not fail leaves later answers alone: after any calls that spare what the files that
it entered would inherit, every mapping and every severity is the same with and without it, at every
location. -/
theorem severity_after_query (hfront : front.Makes fun _ => True) (h : Reached front e)
    (hw : FileTable.WellPlaced e.files.newestFirst) {query : Query} {loc : Option Location}
    (hperf : (query.perform loc).perform e = (.ok (), e')) {calls : List PlainCall}
    (hspared : SparedBy e'.Entered e calls) (id : Option Int) (place : Option Location) :
    ((mappingAt id place).perform (e'.afterCalls calls)).1 =
        ((mappingAt id place).perform (e.afterCalls calls)).1 ∧
      ((effectiveSeverity id place).perform (e'.afterCalls calls)).1 =
        ((effectiveSeverity id place).perform (e.afterCalls calls)).1 := by
  rcases beside_of_query hfront h hw hperf with rfl | hbeside
  · exact ⟨rfl, rfl⟩
  · have hafter := hbeside.calls hspared
    exact ⟨(lockstep_mappingAt id place _ _ hafter).1.symm,
      (lockstep_effectiveSeverity id place _ _ hafter).1.symm⟩

/-! ## A query about a header -/

/-- The including file maps a diagnostic in front of the header. -/
def beforeHeader : Engine :=
  ((PlainCall.located (.change (.severity 1 .error)) ⟨1, 1⟩).perform.perform includer.start).2

/-- The engine in front of the header is reached. -/
theorem reached_beforeHeader : Reached quotingFront beforeHeader := by
  have h : Reached quotingFront includer.start := .start includer
  exact h.next (.located (.change (.severity 1 .error)) ⟨1, 1⟩) rfl

/-- Behind the header, or inside of it, there is no include point. -/
theorem behind_includer {loc : Location} {map : PolicyMap} (hloc : loc.file = 2 ∨ 10 < loc.offset) :
    PolicyMap.Behind includer.files.newestFirst early loc map := by
  intro id source _ _ hs hparent
  rcases FileTable.lookup_cons_cases hs with ⟨-, rfl⟩ | hs
  · have hmain : loc.file = 1 := (Option.some.inj hparent).symm
    show (10 : Int) < loc.offset
    omega
  · rcases FileTable.lookup_cons_cases hs with ⟨-, rfl⟩ | hs
    · cases hparent
    · cases hs

/-- The including file goes on behind the header, and a scope is open while the header maps the
diagnostic. -/
def pastHeader : List PlainCall :=
  [.located (.change (.severity 1 .fatal)) ⟨1, 20⟩, .unlocated (.call .push),
    .located (.change (.severity 1 .error)) ⟨2, 3⟩, .located .pop ⟨1, 30⟩]

/-- Everything that happens behind the include point spares what the header would inherit. -/
theorem sparedBy_pastHeader : SparedBy early beforeHeader pastHeader := by
  have helsewhere : ∀ (loc : Location) (map : PolicyMap), loc.file = 2 ∨ 10 < loc.offset →
      map.location ≠ some loc → PolicyMap.Spares includer.files.newestFirst early (some loc) map := by
    intro loc map hloc hne
    refine ⟨?_, fun ref hin => absurd (hin.here loc rfl).1 hne⟩
    rintro _ ⟨⟩
    exact behind_includer hloc
  refine ⟨helsewhere _ _ (by decide) (by decide), trivial, helsewhere _ _ (by decide) (by decide),
    fun _ _ _ => behind_includer (by decide), trivial⟩

/-- Nobody can tell there whether the header was asked about early. -/
theorem severity_pastHeader : Reached quotingFront beforeHeader ∧
    FileTable.WellPlaced beforeHeader.files.newestFirst ∧
    ∃ asked, ((Query.severity (some 1)).perform (some ⟨2, 0⟩)).perform beforeHeader =
        (.ok (), asked) ∧
      SparedBy asked.Entered beforeHeader pastHeader ∧ ∀ id place,
        ((mappingAt id place).perform (asked.afterCalls pastHeader)).1 =
            ((mappingAt id place).perform (beforeHeader.afterCalls pastHeader)).1 ∧
          ((effectiveSeverity id place).perform (asked.afterCalls pastHeader)).1 =
            ((effectiveSeverity id place).perform (beforeHeader.afterCalls pastHeader)).1 := by
  obtain ⟨asked, hasked⟩ : ∃ asked, ((Query.severity (some 1)).perform (some ⟨2, 0⟩)).perform
      beforeHeader = (.ok (), asked) := ⟨_, rfl⟩
  exact ⟨reached_beforeHeader, wellPlaced_includer, asked, hasked, sparedBy_pastHeader,
    severity_after_query (makes_quotingFront _) reached_beforeHeader wellPlaced_includer hasked
      sparedBy_pastHeader⟩

/-- A change in front of the header does not reach it any more if the header was asked about before. -/
theorem query_freezes_header : Reached quotingFront beforeHeader ∧
    ∃ asked changed changed', ((Query.severity (some 1)).perform (some ⟨2, 0⟩)).perform beforeHeader =
        (.ok (), asked) ∧
      ((Change.severity 1 .fatal).perform (some ⟨1, 5⟩)).perform beforeHeader = (.ok (), changed) ∧
      ((Change.severity 1 .fatal).perform (some ⟨1, 5⟩)).perform asked = (.ok (), changed') ∧
      changed.severityFound (some 1) ⟨2, 0⟩ = .ok .fatal ∧
      changed'.severityFound (some 1) ⟨2, 0⟩ = .ok .error :=
  ⟨reached_beforeHeader, _, _, _, rfl, rfl, rfl, rfl, rfl⟩

end Engine

end Diagnostics
