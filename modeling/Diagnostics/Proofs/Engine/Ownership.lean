import Diagnostics.Proofs.Engine.Calls
import Diagnostics.Proofs.PolicyMap.Steady

/-!
# Policies that may be changed

Every change of severities looks at the policy in effect, gets a policy that it may change, and changes
that one. The first section computes the steps that a change without a location is made of; the second
one inverts the located ones. `Editable` says of a property of engines that these steps keep it, and
from that follows that all changes do, however many diagnostics they are about.
-/

set_option autoImplicit false

namespace Diagnostics

/-- The map with a copy of a policy added to its store; the copy is named by the size of the store. -/
def PolicyMap.copied (map : PolicyMap) (ref : PolicyRef) : PolicyMap :=
  { map with store := (map.store.add (map.store.get ref).policy).2 }

/-- The map with what one policy says changed. -/
def PolicyMap.changed (map : PolicyMap) (ref : PolicyRef) (f : Policy → Policy) : PolicyMap :=
  { map with store := map.store.change ref f }

namespace Engine

open Diagnostics.Action

variable {e e' : Engine} {ref : PolicyRef} {faulty : Bool} {P : Engine → Prop}
  {loc : Option Location}

/-! ## Steps without a location -/

/-- The current policy is given, if there is one. -/
theorem perform_currentPolicy (h : e.policies.current = some ref) :
    currentPolicy.perform e = (.ok ref, e) := by
  unfold currentPolicy
  rw [perform_get_bind, h]
  rfl

/-- Without a current policy it is a fault to ask for it. -/
theorem perform_currentPolicy_none (h : e.policies.current = none) :
    currentPolicy.perform e = (.error .partMissing, e) := by
  unfold currentPolicy
  rw [perform_get_bind, h]
  rfl

/-- Whether a policy is shared is read off the store. -/
theorem perform_isShared (ref : PolicyRef) (e : Engine) :
    (isShared ref).perform e = (.ok (e.policies.store.get ref).isShared, e) := rfl

/-- What a policy says is read off the store. -/
theorem perform_readPolicy (ref : PolicyRef) (e : Engine) :
    (readPolicy ref).perform e = (.ok (e.policies.store.get ref).policy, e) := rfl

/-- A copy gets the next number in the store. -/
theorem perform_copyPolicy (ref : PolicyRef) (e : Engine) :
    (copyPolicy ref).perform e =
      (.ok e.policies.store.size, { e with policies := e.policies.copied ref }) := rfl

/-- Without a location the current policy is meant. -/
theorem perform_policyAt_none (h : e.policies.current = some ref) :
    (policyAt none).perform e = (.ok ref, e) := by
  unfold policyAt
  rw [perform_get_bind]
  simp only [h]
  rfl

/-- If there is none, that is a fault. -/
theorem perform_policyAt_missing (h : e.policies.current = none) :
    (policyAt none).perform e = (.error .partMissing, e) := by
  unfold policyAt
  rw [perform_get_bind]
  simp only [h]
  rfl

/-- Without a location the current policy may be changed if nobody else holds it. -/
theorem perform_ownCurrent_alone (hc : e.policies.current = some ref)
    (hs : ¬(e.policies.store.get ref).isShared = true) : ownCurrent.perform e = (.ok ref, e) := by
  unfold ownCurrent
  rw [perform_bind_of_ok (perform_currentPolicy hc), perform_bind_of_ok (perform_isShared ref e),
    if_neg hs, perform_pure]

/-- Without a location a shared policy is copied, and the copy becomes current. -/
theorem perform_ownCurrent_shared (hc : e.policies.current = some ref)
    (hs : (e.policies.store.get ref).isShared = true) :
    ∃ outlet, ownCurrent.perform e = (.ok e.policies.store.size,
      { e with policies := (e.policies.copied ref).replaceCurrent e.policies.store.size, outlet }) := by
  unfold ownCurrent
  rw [perform_bind_of_ok (perform_currentPolicy hc), perform_bind_of_ok (perform_isShared ref e),
    if_pos hs, perform_bind_of_ok (perform_copyPolicy ref e)]
  exact ⟨_, rfl⟩

/-- Opening a scope saves the current policy. -/
theorem perform_pushScope (hc : e.policies.current = some ref) (loc : Option Location) :
    ∃ outlet, (pushScope loc).perform e = (.ok (),
      { e with
        policies := { e.policies with store := e.policies.store.retain ref },
        scopes := ref :: e.scopes, outlet }) := by
  unfold pushScope
  rw [perform_bind_of_ok (perform_currentPolicy hc)]
  exact ⟨_, rfl⟩

/-- Nothing is closed if no scope is open. -/
theorem perform_popScope_nil (h : e.scopes = []) (loc : Option Location) :
    ∃ outlet, (popScope loc).perform e = (.ok false, { e with outlet }) := by
  unfold popScope
  rw [perform_get_bind]
  split
  · exact ⟨_, rfl⟩
  · rename_i heq
    rw [h] at heq
    cases heq

/-- The map once a policy that a scope saved is current again. -/
def restored (map : PolicyMap) (saved : PolicyRef) : PolicyMap :=
  if map.current ≠ some saved then map.replaceCurrent saved else map

/-- Without a location a scope restores the policy that it saved. -/
theorem perform_restore_none (saved : PolicyRef) (e : Engine) :
    (restore saved none).perform e = (.ok (), { e with policies := restored e.policies saved }) := by
  unfold restore restored
  rw [perform_get_bind]
  split <;> rfl

/-- Closing a scope without a location makes the saved policy current again. -/
theorem perform_popScope_none {saved : PolicyRef} {outer : List PolicyRef}
    (h : e.scopes = saved :: outer) :
    ∃ outlet, (popScope none).perform e = (.ok true,
      { e with
        policies := { restored e.policies saved with
          store := (restored e.policies saved).store.release saved },
        scopes := outer, outlet }) := by
  unfold popScope
  rw [perform_get_bind]
  split
  · rename_i heq
    rw [h] at heq
    cases heq
  · rename_i saved' outer' heq
    rw [h, List.cons.injEq] at heq
    obtain ⟨rfl, rfl⟩ := heq
    rw [perform_bind_of_ok (perform_restore_none saved e)]
    exact ⟨_, rfl⟩

/-- If a current policy is given, it is the one of the map. -/
theorem currentPolicy_ok (h : currentPolicy.perform e = (.ok ref, e')) :
    e.policies.current = some ref ∧ e' = e := by
  rcases Option.eq_none_or_eq_some e.policies.current with hnone | ⟨cur, hcur⟩
  · unfold currentPolicy at h
    rw [perform_get_bind, hnone] at h
    cases h
  · rw [perform_currentPolicy hcur] at h
    cases h
    exact ⟨hcur, rfl⟩

/-- What a change without a location gets: the current policy, or a copy of it. -/
theorem ownCurrent_ok (h : ownCurrent.perform e = (.ok ref, e')) :
    ∃ cur, e.policies.current = some cur ∧
      ((¬(e.policies.store.get cur).isShared = true ∧ ref = cur ∧ e' = e) ∨
        (ref = e.policies.store.size ∧ ∃ outlet, e' = { e with
          policies := (e.policies.copied cur).replaceCurrent e.policies.store.size, outlet })) := by
  have h' := h
  unfold ownCurrent at h'
  obtain ⟨cur, e₁, hcurrent, -⟩ := perform_bind_eq_ok.mp h'
  obtain ⟨hcur, -⟩ := currentPolicy_ok hcurrent
  refine ⟨cur, hcur, ?_⟩
  by_cases hs : (e.policies.store.get cur).isShared = true
  · obtain ⟨outlet, hown⟩ := perform_ownCurrent_shared hcur hs
    rw [hown] at h
    cases h
    exact .inr ⟨rfl, outlet, rfl⟩
  · rw [perform_ownCurrent_alone hcur hs] at h
    cases h
    exact .inl ⟨hs, rfl, rfl⟩

/-- How a scope is opened. -/
theorem pushScope_ok (h : (pushScope loc).perform e = (.ok (), e')) :
    ∃ cur outlet, e.policies.current = some cur ∧ e' = { e with
      policies := { e.policies with store := e.policies.store.retain cur }
      scopes := cur :: e.scopes, outlet } := by
  have h' := h
  unfold pushScope at h'
  obtain ⟨cur, e₁, hcurrent, -⟩ := perform_bind_eq_ok.mp h'
  obtain ⟨hcur, -⟩ := currentPolicy_ok hcurrent
  obtain ⟨outlet, hpush⟩ := perform_pushScope hcur loc
  rw [hpush] at h
  cases h
  exact ⟨cur, outlet, hcur, rfl⟩

/-! ## Located steps -/

/-- What follows the search for a policy: that none was found is a fault. -/
def demanded : Option PolicyRef → Action Engine PolicyRef
  | some ref => pure ref
  | none => throw .partMissing

/-- If a policy is given, it was found. -/
theorem demanded_ok {found : Option PolicyRef}
    (h : (demanded found).perform e = (.ok ref, e')) : found = some ref ∧ e' = e := by
  cases found with
  | none => cases h
  | some found =>
    cases h
    exact ⟨rfl, rfl⟩

/-- How a policy is found: by location, or as the current one. -/
theorem policyAt_ok (h : (policyAt loc).perform e = (.ok ref, e')) :
    (∃ l service map, loc = some l ∧ e.locations = some service ∧
      (PolicyMap.lookup service e.files l).perform e.policies = (.ok (some ref), map) ∧
        e' = { e with policies := map }) ∨
    ((loc = none ∨ e.locations = none) ∧ e.policies.current = some ref ∧ e' = e) := by
  unfold policyAt at h
  rw [perform_get_bind] at h
  have hcurrent : (do demanded (← pure e.policies.current)).perform e = (.ok ref, e') →
      e.policies.current = some ref ∧ e' = e := by
    intro h
    rw [perform_bind_of_ok (perform_pure _ _)] at h
    exact demanded_ok h
  cases loc with
  | none => exact .inr ⟨.inl rfl, hcurrent h⟩
  | some l =>
    rcases Option.eq_none_or_eq_some e.locations with hs | ⟨service, hs⟩
    · simp only [hs] at h
      exact .inr ⟨.inr hs, hcurrent h⟩
    · simp only [hs] at h
      obtain ⟨found, e₁, hlookup, h⟩ := perform_bind_eq_ok.mp h
      obtain ⟨rfl, rfl⟩ := demanded_ok h
      unfold onPolicies at hlookup
      rw [perform_onPart, Prod.mk.injEq] at hlookup
      exact .inl ⟨l, service, _, rfl, hs, Prod.ext hlookup.1 rfl, hlookup.2.symm⟩

/-- Asking for a policy at a location does what the look-up in the map does. -/
theorem perform_policyAt_some {service : LocationService} {l : Location} {map : PolicyMap}
    {found : Except Fault (Option PolicyRef)} (hs : e.locations = some service)
    (hperf : (PolicyMap.lookup service e.files l).perform e.policies = (found, map)) :
    ∃ result, (policyAt (some l)).perform e = (result, { e with policies := map }) ∧
      ∀ ref, found = .ok (some ref) → result = .ok ref := by
  have hlookup : (onPolicies (PolicyMap.lookup service e.files l)).perform e =
      (found, { e with policies := map }) := by
    unfold onPolicies
    rw [perform_onPart, hperf]
  generalize ({ e with policies := map } : Engine) = e₁ at hlookup ⊢
  unfold policyAt
  rw [perform_get_bind]
  simp only [hs]
  rcases found with fault | _ | ref
  · rw [perform_bind_of_error hlookup]
    exact ⟨_, rfl, by rintro _ ⟨⟩⟩
  · rw [perform_bind_of_ok hlookup]
    exact ⟨_, rfl, by rintro _ ⟨⟩⟩
  · rw [perform_bind_of_ok hlookup]
    refine ⟨_, rfl, ?_⟩
    rintro _ ⟨⟩
    rfl

/-- Looking at a location keeps what look-ups in the map keep. -/
theorem keeps_policyAt (hlookup : ∀ (service : LocationService) (table : FileTable) (l : Location),
    Keeps faulty P (onPolicies (PolicyMap.lookup service table l))) (loc : Option Location) :
    Keeps faulty P (policyAt loc) := by
  have hdemanded : ∀ found, Keeps faulty P (demanded found)
    | none => keeps_throw _
    | some _ => keeps_pure _
  unfold policyAt
  refine keeps_bind keeps_get fun e => ?_
  dsimp only
  split
  · exact keeps_bind (hlookup _ _ _) hdemanded
  · exact keeps_bind (keeps_pure _) hdemanded

/-- How a change at a location gets a policy that it may change: either the policy found there is it,
or a copy of that one was appended there. -/
theorem ownAt_ok {l : Location} (h : (ownAt l).perform e = (.ok ref, e')) :
    ∃ service base e₁, e.locations = some service ∧
      (policyAt (some l)).perform e = (.ok base, e₁) ∧
      ((e₁.policies.location = some l ∧ e₁.policies.current = some base ∧
          ¬(e₁.policies.store.get base).isShared = true ∧ ref = base ∧ e' = e₁) ∨
        (ref = e₁.policies.store.size ∧ ∃ map outlet,
          (PolicyMap.append service e₁.files l ref).perform (e₁.policies.copied base) =
            (.ok (), map) ∧ e' = { e₁ with policies := map, outlet })) := by
  unfold ownAt at h
  rw [perform_get_bind] at h
  split at h
  · rename_i service hservice
    obtain ⟨base, e₁, hbase, h⟩ := perform_bind_eq_ok.mp h
    refine ⟨service, base, e₁, hservice, hbase, ?_⟩
    rw [perform_get_bind] at h
    dsimp only at h
    split at h
    · rename_i hown
      cases h
      simp only [Bool.and_eq_true, decide_eq_true_eq, Bool.not_eq_true'] at hown
      exact .inl ⟨hown.1.1, hown.1.2, by rw [hown.2]; exact Bool.false_ne_true, rfl, rfl⟩
    · rw [perform_bind_of_ok (perform_copyPolicy base e₁), perform_get_bind] at h
      obtain ⟨_, e₂, happend, h⟩ := perform_bind_eq_ok.mp h
      unfold onPolicies at happend
      rw [perform_onPart, Prod.mk.injEq] at happend
      obtain ⟨hok, rfl⟩ := happend
      cases h
      exact .inr ⟨rfl, _, _, Prod.ext hok rfl, rfl⟩
  · cases h

/-- How a saved policy becomes current again. -/
theorem restore_ok {saved : PolicyRef} (h : (restore saved loc).perform e = (.ok (), e')) :
    (e.policies.current = some saved ∧ e' = e) ∨
    (e.policies.current ≠ some saved ∧
      ((∃ l service map, loc = some l ∧ e.locations = some service ∧
          (PolicyMap.append service e.files l saved).perform e.policies = (.ok (), map) ∧
            e' = { e with policies := map }) ∨
        ((loc = none ∨ e.locations = none) ∧
          e' = { e with policies := e.policies.replaceCurrent saved }))) := by
  unfold restore at h
  rw [perform_get_bind] at h
  split at h
  · rename_i hne
    refine .inr ⟨hne, ?_⟩
    cases loc with
    | none =>
      cases h
      exact .inr ⟨.inl rfl, rfl⟩
    | some l =>
      rcases Option.eq_none_or_eq_some e.locations with hs | ⟨service, hs⟩
      · simp only [hs] at h
        cases h
        exact .inr ⟨.inr hs, rfl⟩
      · simp only [hs] at h
        unfold onPolicies at h
        rw [perform_onPart, Prod.mk.injEq] at h
        exact .inl ⟨l, service, _, rfl, hs, Prod.ext h.1 rfl, h.2.symm⟩
  · rename_i heq
    cases h
    exact .inl ⟨not_not.mp heq, rfl⟩

/-- How a scope is closed. -/
theorem popScope_ok {closed : Bool} (h : (popScope loc).perform e = (.ok closed, e')) :
    (e.scopes = [] ∧ ∃ outlet, e' = { e with outlet }) ∨
    ∃ saved outer e₁ outlet, e.scopes = saved :: outer ∧
      (restore saved loc).perform e = (.ok (), e₁) ∧
        e' = { e₁ with
          policies := { e₁.policies with store := e₁.policies.store.release saved },
          scopes := outer, outlet } := by
  unfold popScope at h
  rw [perform_get_bind] at h
  split at h
  · rename_i hnil
    cases h
    exact .inl ⟨hnil, _, rfl⟩
  · rename_i saved outer hcons
    obtain ⟨_, e₁, hrestore, h⟩ := perform_bind_eq_ok.mp h
    cases h
    exact .inr ⟨saved, outer, e₁, _, hcons, hrestore, rfl⟩

/-! ## What stays in place -/

/-- The catalog, the files and the silencing of extensions stay in place. -/
structure Unmoved (e e' : Engine) : Prop where
  catalog : e'.catalog = e.catalog
  files : e'.files = e.files
  locations : e'.locations = e.locations
  silenced : e'.extensionsSilenced = e.extensionsSilenced

/-- What stays in place twice stays in place. -/
theorem Unmoved.trans {e'' : Engine} (h : Unmoved e e') (h' : Unmoved e' e'') : Unmoved e e'' where
  catalog := h'.catalog.trans h.catalog
  files := h'.files.trans h.files
  locations := h'.locations.trans h.locations
  silenced := h'.silenced.trans h.silenced

/-- Looking for a policy moves nothing. -/
theorem policyAt_unmoved (h : (policyAt loc).perform e = (.ok ref, e')) :
    Unmoved e e' ∧ e'.scopes = e.scopes := by
  rcases policyAt_ok h with ⟨_, _, _, -, -, -, rfl⟩ | ⟨-, -, rfl⟩ <;>
    exact ⟨⟨rfl, rfl, rfl, rfl⟩, rfl⟩

/-- Neither does getting one that may be changed. -/
theorem ownPolicy_unmoved (h : (ownPolicy loc).perform e = (.ok ref, e')) :
    Unmoved e e' ∧ e'.scopes = e.scopes := by
  cases loc with
  | none =>
    obtain ⟨_, -, ⟨-, -, rfl⟩ | ⟨-, _, rfl⟩⟩ := ownCurrent_ok h <;>
      exact ⟨⟨rfl, rfl, rfl, rfl⟩, rfl⟩
  | some l =>
    obtain ⟨_, _, e₁, -, hfound, hcase⟩ := ownAt_ok h
    obtain ⟨hmoved, hscopes⟩ := policyAt_unmoved hfound
    rcases hcase with ⟨-, -, -, -, rfl⟩ | ⟨-, _, _, -, rfl⟩
    · exact ⟨hmoved, hscopes⟩
    · exact ⟨hmoved.trans ⟨rfl, rfl, rfl, rfl⟩, hscopes⟩

/-- Opening a scope moves nothing but the scopes. -/
theorem pushScope_unmoved (h : (pushScope loc).perform e = (.ok (), e')) : Unmoved e e' := by
  obtain ⟨_, _, -, rfl⟩ := pushScope_ok h
  exact ⟨rfl, rfl, rfl, rfl⟩

/-- Restoring a policy moves nothing. -/
theorem restore_unmoved {saved : PolicyRef} (h : (restore saved loc).perform e = (.ok (), e')) :
    Unmoved e e' ∧ e'.scopes = e.scopes := by
  rcases restore_ok h with ⟨-, rfl⟩ | ⟨-, ⟨_, _, _, -, -, -, rfl⟩ | ⟨-, rfl⟩⟩ <;>
    exact ⟨⟨rfl, rfl, rfl, rfl⟩, rfl⟩

/-- Closing a scope moves nothing but the scopes. -/
theorem popScope_unmoved {closed : Bool} (h : (popScope loc).perform e = (.ok closed, e')) :
    Unmoved e e' := by
  rcases popScope_ok h with ⟨-, _, rfl⟩ | ⟨_, _, _, _, -, hrestore, rfl⟩
  · exact ⟨rfl, rfl, rfl, rfl⟩
  · exact (restore_unmoved hrestore).1.trans ⟨rfl, rfl, rfl, rfl⟩

/-! ## Questions -/

/-- Reading a policy is no change. -/
theorem keeps_readPolicy (ref : PolicyRef) : Keeps faulty P (readPolicy ref) := by
  unfold readPolicy
  exact keeps_get_bind fun _ h => endsIn_pure _ h

/-- A mapping looks at nothing but the policy at its location. -/
theorem keeps_mappingAt (hlook : Keeps faulty P (policyAt loc))
    (id : Option Int) : Keeps faulty P (mappingAt id loc) :=
  keeps_bind hlook fun ref => keeps_bind (keeps_readPolicy ref) fun _ =>
    keeps_bind keeps_get fun _ => keeps_ofExcept _

/-! ## Changes of several diagnostics -/

/-- The members of a group are read off the catalog, with a debug line. -/
theorem keeps_groupMembers (hdebug : ∀ message, Keeps faulty P (debug message)) (flavor : Flavor)
    (group : Scalar) : Keeps faulty P (groupMembers flavor group) := by
  unfold Engine.groupMembers
  apply keeps_get_bind
  intro e he
  split
  · exact endsIn_pure _ he
  · exact keeps_bind (hdebug _) (fun _ => keeps_pure _) e he
  · exact keeps_bind (hdebug _) (fun _ => keeps_pure _) e he
  · exact endsIn_throw _ he

/-- Changing a group keeps what changing one diagnostic after the other keeps, also if it stops half
way. -/
theorem keeps_setGroup {severity : Severity} (hdebug : ∀ message, Keeps faulty P (debug message))
    (hset : ∀ id, Keeps faulty P (setSeverity id severity loc)) (flavor : Flavor) (group : Scalar) :
    Keeps faulty P (setGroup flavor group severity loc) := by
  unfold Engine.setGroup
  refine keeps_bind (keeps_groupMembers hdebug flavor group) fun members => ?_
  split
  · exact keeps_pure _
  · exact keeps_bind (keeps_forM hset _) fun _ => keeps_pure _

/-- Setting all severities keeps what setting each of them keeps. -/
theorem keeps_setAll {severity : Severity}
    (hset : ∀ id, Keeps faulty P (setSeverity id severity loc)) (flavor : Flavor) :
    Keeps faulty P (setAll flavor severity loc) := by
  unfold Engine.setAll
  refine keeps_bind keeps_get fun e => ?_
  refine keeps_bind (keeps_forIn (fun id _ => ?_) _ _) fun _ => keeps_pure _
  exact keeps_bind (keeps_ofExcept _) fun _ => keeps_when (hset id) (keeps_pure _)

/-- Changing the mappings of a group keeps what changing each of them keeps. -/
theorem keeps_changeGroup {f : Mapping → Mapping}
    (hdebug : ∀ message, Keeps faulty P (debug message))
    (hchange : ∀ id, Keeps faulty P (changeMapping id f)) (group : Scalar) :
    Keeps faulty P (changeGroup group f) := by
  unfold Engine.changeGroup
  refine keeps_bind (keeps_groupMembers hdebug _ group) fun members => ?_
  split
  · exact keeps_pure _
  · exact keeps_bind (keeps_forM hchange _) fun _ => keeps_pure _

/-! ## Changes keep what their steps keep -/

/-- A property that the steps of a change keep. -/
structure Editable (faulty : Bool) (loc : Option Location) (P : Engine → Prop) : Prop where
  log : ∀ e outlet, P e → P { e with outlet }
  look : Keeps faulty P (policyAt loc)
  own : Keeps faulty P (ownPolicy loc)
  change : ∀ {e ref e'}, P e → (ownPolicy loc).perform e = (.ok ref, e') → ∀ f,
    P { e' with policies := e'.policies.changed ref f }

/-- A debug line may be written. -/
theorem Editable.debug (h : Editable faulty loc P) (message : String) :
    Keeps faulty P (debug message) :=
  keeps_modify fun e he => h.log e _ he

/-- A policy may be changed. -/
theorem Editable.changePolicy (h : Editable faulty loc P) (f : Policy → Policy) :
    Keeps faulty P (changePolicy loc f) := by
  intro e he
  unfold Engine.changePolicy
  exact endsIn_bind (h.own e he) fun ref e' hperf _ => endsIn_modify (h.change he hperf f)

/-- The severity of a diagnostic may be set. -/
theorem Editable.setSeverity (h : Editable faulty loc P) (id : Int) (severity : Severity) :
    Keeps faulty P (setSeverity id severity loc) := by
  have hset : ∀ entry : CatalogEntry, Keeps faulty P (do
      let current ← mappingAt (some id) loc
      let mapping := requestedMapping current severity loc.isSome
      Engine.changePolicy loc fun policy => policy.set id mapping
      let place := (loc.map Location.describe).getD "<command line>"
      Engine.debug s!"{entry.name.display} -> {mapping.severity.spelling} at {place}") := fun entry =>
    keeps_bind (keeps_mappingAt h.look _) fun _ =>
      keeps_bind (h.changePolicy _) fun _ => h.debug _
  unfold Engine.setSeverity
  refine keeps_bind keeps_get fun e => keeps_bind (keeps_ofExcept _) fun entry => ?_
  refine keeps_bind (keeps_ofExcept _) fun mayBeAny => keeps_ite ?_ ?_
  · exact keeps_throw _
  · refine keeps_bind keeps_get fun e' => keeps_ite ?_ ?_
    · exact keeps_throw _
    · exact hset entry

/-- The severity of a group may be set. -/
theorem Editable.setGroup (h : Editable faulty loc P) (flavor : Flavor) (group : Scalar)
    (severity : Severity) : Keeps faulty P (setGroup flavor group severity loc) :=
  keeps_setGroup h.debug (fun id => h.setSeverity id severity) flavor group

/-- The severity of all diagnostics of a flavor may be set. -/
theorem Editable.setAll (h : Editable faulty loc P) (flavor : Flavor) (severity : Severity) :
    Keeps faulty P (setAll flavor severity loc) :=
  keeps_setAll (fun id => h.setSeverity id severity) flavor

/-- Every change keeps what its steps keep. -/
theorem Editable.perform (h : Editable faulty loc P) (change : Change) :
    Keeps faulty P (change.perform loc) := by
  cases change with
  | severity id level => exact h.setSeverity id level
  | group flavor name level =>
    exact keeps_bind (h.setGroup flavor name level) fun _ => keeps_pure _
  | all flavor level => exact keeps_bind (h.setAll flavor level) fun _ => keeps_pure _
  | toggle which value => exact h.changePolicy _
  | extension level => exact h.changePolicy _

/-- A mapping may be changed, without a location. -/
theorem Editable.changeMapping (h : Editable faulty none P) (id : Int) (f : Mapping → Mapping) :
    Keeps faulty P (changeMapping id f) := by
  intro e he
  unfold Engine.changeMapping
  refine endsIn_bind (h.own e he) fun ref e' hperf he' => ?_
  refine endsIn_bind (endsIn_of_perform (perform_readPolicy ref e') he') fun policy e₁ hread _ => ?_
  rw [perform_readPolicy, Prod.mk.injEq] at hread
  obtain ⟨-, rfl⟩ := hread
  apply endsIn_get_bind
  refine endsIn_bind (endsIn_ofExcept _ he') fun mapping e₂ hmapping _ => ?_
  obtain ⟨-, rfl⟩ := perform_ofExcept_eq_ok.mp hmapping
  exact endsIn_modify (h.change he hperf _)

/-- The mappings of a group may be changed, without a location. -/
theorem Editable.changeGroup (h : Editable faulty none P) (group : Scalar)
    (f : Mapping → Mapping) : Keeps faulty P (changeGroup group f) :=
  keeps_changeGroup h.debug (fun id => h.changeMapping id f) group

/-- The promotion of groups keeps what the steps of changes without a location keep. -/
theorem Editable.groupWarningAsError (h : Editable faulty none P) (group : Scalar)
    (enabled : Bool) : Keeps faulty P (UnlocatedCall.groupWarningAsError group enabled).perform := by
  refine keeps_bind ?_ fun _ => keeps_pure _
  unfold setGroupWarningAsError
  exact keeps_ite (h.setGroup _ group _) (h.changeGroup group _)

/-- A group may be promoted to fatal errors. -/
theorem Editable.groupErrorAsFatal (h : Editable faulty none P) (group : Scalar)
    (enabled : Bool) : Keeps faulty P (UnlocatedCall.groupErrorAsFatal group enabled).perform := by
  refine keeps_bind ?_ fun _ => keeps_pure _
  unfold setGroupErrorAsFatal
  exact keeps_ite (h.setGroup _ group _) (h.changeGroup group _)

end Engine

end Diagnostics
