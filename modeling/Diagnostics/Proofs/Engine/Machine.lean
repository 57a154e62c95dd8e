import Diagnostics.Proofs.Engine.Ownership
import Diagnostics.Proofs.PolicyMap.Marks

/-!
# The reference machine

Severities can be explained without a store, counts and copies: there is one policy, a plain value, and a
stack of saved ones. Opening a scope saves the value, closing it brings the saved value back, and a
change updates the value by a rule of its own, `Change.apply`.

The engine makes the same updates wherever it may change a policy that says what the value is.
`Engine.Applies` is this condition, and `Engine.Applies.perform` takes it from single steps to whole
changes.
-/

set_option autoImplicit false

namespace Diagnostics

open Diagnostics.Action

/-! ## Rules for changes -/

/-- Maps a diagnostic to something made from what it was mapped to. -/
def Policy.remap (policy : Policy) (catalog : Catalog) (f : Mapping → Mapping) (id : Int) : Policy :=
  match policy.mappingOf catalog (some id) with
  | .ok mapping => policy.set id (f mapping)
  | .error _ => policy

/-- Maps several diagnostics, one after the other. -/
def Policy.remapAll (policy : Policy) (catalog : Catalog) (f : Mapping → Mapping) (ids : List Int) :
    Policy :=
  ids.foldl (fun policy id => policy.remap catalog f id) policy

/-- The members of a group, none if it is not known. -/
def Catalog.membersOrNone (catalog : Catalog) (flavor : Flavor) (group : Scalar) : List Int :=
  match catalog.members flavor group with
  | .ok ids => ids
  | .error _ => []

/-- The diagnostics of a flavor that may be mapped to any level. -/
def Catalog.adjustable (catalog : Catalog) (flavor : Flavor) : List Int :=
  (catalog.allIds flavor).filter fun id =>
    match catalog.isWarningOrExtension (some id) with
    | .ok adjustable => adjustable
    | .error _ => false

/-- What a change makes of a policy; `inSource` is whether it is made at a location. -/
def Change.apply (catalog : Catalog) (inSource : Bool) : Change → Policy → Policy
  | severity id level, policy =>
    policy.remap catalog (fun current => Engine.requestedMapping current level inSource) id
  | group flavor name level, policy =>
    policy.remapAll catalog (fun current => Engine.requestedMapping current level inSource)
      (catalog.membersOrNone flavor name)
  | all flavor level, policy =>
    policy.remapAll catalog (fun current => Engine.requestedMapping current level inSource)
      (catalog.adjustable flavor)
  | toggle which value, policy => { policy with toggles := which.put value policy.toggles }
  | extension level, policy => { policy with extensionBehavior := level }

/-- The mapping exempt from the promotion of warnings to errors. -/
def Mapping.keptFromError (mapping : Mapping) : Mapping :=
  { mapping with noWarningAsError := true }

/-- The mapping exempt from the promotion of errors to fatal errors, and no fatal error itself. -/
def Mapping.keptFromFatal (mapping : Mapping) : Mapping :=
  { mapping with
    severity := if mapping.severity = .fatal then .error else mapping.severity
    noErrorAsFatal := true }

/-! ## The machine -/

/-- The policy in effect and the saved ones, the innermost first. -/
structure Machine where
  value : Policy
  saved : List Policy := []

namespace Machine

/-- The machine after a change, or the opening or closing of a scope. -/
def call (catalog : Catalog) (inSource : Bool) (m : Machine) : LocatedCall → Machine
  | .change change => { m with value := change.apply catalog inSource m.value }
  | .push => { m with saved := m.value :: m.saved }
  | .pop =>
    match m.saved with
    | [] => m
    | value :: saved => ⟨value, saved⟩

/-- The machine after a call without a location. -/
def unlocated (catalog : Catalog) (m : Machine) : UnlocatedCall → Machine
  | .call c => m.call catalog false c
  | .groupWarningAsError name true =>
    m.call catalog false (.change (.group .warningOrError name .error))
  | .groupWarningAsError name false =>
    { m with
      value := m.value.remapAll catalog Mapping.keptFromError
        (catalog.membersOrNone .warningOrError name) }
  | .groupErrorAsFatal name true =>
    m.call catalog false (.change (.group .warningOrError name .fatal))
  | .groupErrorAsFatal name false =>
    { m with
      value := m.value.remapAll catalog Mapping.keptFromFatal
        (catalog.membersOrNone .warningOrError name) }

end Machine

/-! ## Loops that do not fail -/

namespace Action

variable {σ α β : Type}

/-- What a value and a state have in common after each pass of a loop, they have after the loop. -/
theorem forM_ok {R : β → σ → Prop} {f : α → Action σ PUnit} {g : β → α → β}
    (hstep : ∀ a v s s', R v s → (f a).perform s = (.ok (), s') → R (g v a) s') (l : List α) {v : β}
    {s s' : σ} (h : R v s) (hperf : (l.forM f).perform s = (.ok (), s')) :
    R (l.foldl g v) s' := by
  induction l generalizing v s with
  | nil =>
    cases hperf
    exact h
  | cons a l ih =>
    obtain ⟨_, s₁, hfirst, hrest⟩ := perform_bind_eq_ok.mp hperf
    exact ih (hstep a v s s₁ h hfirst) hrest

/-- A loop that succeeds folds what its steps do. -/
theorem forIn_ok {R : β → σ → Prop} {f : α → PUnit → Action σ (ForInStep PUnit)} {g : β → α → β}
    (hstep : ∀ a v s next s', R v s → (f a ()).perform s = (.ok next, s') →
      next = .yield () ∧ R (g v a) s') (l : List α) {v : β} {s s' : σ} (h : R v s)
    (hperf : (forIn l () f).perform s = (.ok (), s')) : R (l.foldl g v) s' := by
  induction l generalizing v s with
  | nil =>
    cases hperf
    exact h
  | cons a l ih =>
    rw [List.forIn_cons] at hperf
    obtain ⟨next, s₁, hfirst, hrest⟩ := perform_bind_eq_ok.mp hperf
    obtain ⟨rfl, h₁⟩ := hstep a v s next s₁ h hfirst
    exact ih h₁ hrest

end Action

/-! ## Changes of the engine follow the rules -/

namespace Engine

/-- Engines in which the policy at a location says what a value is, and a policy that a change gets
there can be changed along with the value. -/
structure Applies (catalog : Catalog) (loc : Option Location) (P : Policy → Engine → Prop) :
    Prop where
  catalog : ∀ {value e}, P value e → e.catalog = catalog
  log : ∀ {value e} outlet, P value e → P value { e with outlet }
  look : ∀ {value e ref e'}, P value e → (policyAt loc).perform e = (.ok ref, e') →
    P value e' ∧ e'.policies.policyOf ref = value
  own : ∀ {value e ref e'}, P value e → (ownPolicy loc).perform e = (.ok ref, e') →
    P value e' ∧ e'.policies.policyOf ref = value ∧
      ∀ f, P (f value) { e' with policies := e'.policies.changed ref f }

variable {catalog : Catalog} {loc : Option Location} {P : Policy → Engine → Prop} {value : Policy}
  {e e' : Engine}

/-- A change of a policy is applied to the value. -/
theorem Applies.changePolicy (h : Applies catalog loc P) (he : P value e) {f : Policy → Policy}
    (hperf : (changePolicy loc f).perform e = (.ok (), e')) : P (f value) e' := by
  unfold Engine.changePolicy at hperf
  obtain ⟨ref, e₁, hown, hmodify⟩ := perform_bind_eq_ok.mp hperf
  cases hmodify
  exact (h.own he hown).2.2 f

/-- A severity that is set is applied to the value. -/
theorem Applies.setSeverity (h : Applies catalog loc P) (he : P value e) {id : Int}
    {severity : Severity} (hperf : (setSeverity id severity loc).perform e = (.ok (), e')) :
    P (value.remap catalog (fun current => requestedMapping current severity loc.isSome) id) e' := by
  -- What is left once the request was found to be allowed.
  have hset : ∀ entry : CatalogEntry, (do
      let current ← mappingAt (some id) loc
      let mapping := requestedMapping current severity loc.isSome
      Engine.changePolicy loc fun policy => policy.set id mapping
      let place := (loc.map Location.describe).getD "<command line>"
      Engine.debug s!"{entry.name.display} -> {mapping.severity.spelling} at {place}").perform e =
        (.ok (), e') →
      P (value.remap catalog (fun current => requestedMapping current severity loc.isSome) id) e' := by
    intro entry hperf
    obtain ⟨current, e₁, hmapping, hperf⟩ := perform_bind_eq_ok.mp hperf
    obtain ⟨_, e₂, hchange, hdebug⟩ := perform_bind_eq_ok.mp hperf
    unfold mappingAt at hmapping
    obtain ⟨ref, e₃, hlook, hread⟩ := perform_bind_eq_ok.mp hmapping
    rw [perform_bind_of_ok (perform_readPolicy ref e₃), perform_get_bind,
      perform_ofExcept_eq_ok] at hread
    obtain ⟨hfound, rfl⟩ := hread
    obtain ⟨he₃, hpolicy⟩ := h.look he hlook
    have hcurrent : value.mappingOf catalog (some id) = .ok current := by
      rw [← hpolicy, ← h.catalog he₃]
      exact hfound
    have he₂ := h.changePolicy he₃ hchange
    cases hdebug
    unfold Policy.remap
    rw [hcurrent]
    exact h.log _ he₂
  unfold Engine.setSeverity at hperf
  rw [perform_get_bind] at hperf
  obtain ⟨entry, _, hentry, hperf⟩ := perform_bind_eq_ok.mp hperf
  obtain ⟨-, rfl⟩ := perform_ofExcept_eq_ok.mp hentry
  obtain ⟨mayBeAny, _, hmay, hperf⟩ := perform_bind_eq_ok.mp hperf
  obtain ⟨-, rfl⟩ := perform_ofExcept_eq_ok.mp hmay
  split at hperf
  · cases hperf
  · rw [perform_get_bind] at hperf
    split at hperf
    · cases hperf
    · exact hset entry hperf

/-- A group has members to go through, or there is nothing to do. -/
theorem Applies.groupMembers (h : Applies catalog loc P) (he : P value e) {flavor : Flavor}
    {group : Scalar} {found : Option (List Int)}
    (hperf : (groupMembers flavor group).perform e = (.ok found, e')) :
    P value e' ∧ found.getD [] = catalog.membersOrNone flavor group := by
  unfold Engine.groupMembers at hperf
  rw [perform_get_bind, h.catalog he] at hperf
  unfold Catalog.membersOrNone
  split at hperf
  · rename_i ids hids
    cases hperf
    rw [hids]
    exact ⟨he, rfl⟩
  · rename_i hnone
    cases hperf
    rw [hnone]
    exact ⟨h.log _ he, rfl⟩
  · rename_i hnone
    cases hperf
    rw [hnone]
    exact ⟨h.log _ he, rfl⟩
  · cases hperf

/-- A group that is set is applied to the value, member by member. -/
theorem Applies.setGroup (h : Applies catalog loc P) (he : P value e) {flavor : Flavor}
    {group : Scalar} {severity : Severity} {known : Bool}
    (hperf : (setGroup flavor group severity loc).perform e = (.ok known, e')) :
    P ((Change.group flavor group severity).apply catalog loc.isSome value) e' := by
  unfold Engine.setGroup at hperf
  obtain ⟨found, e₁, hmembers, hperf⟩ := perform_bind_eq_ok.mp hperf
  obtain ⟨he₁, hfound⟩ := h.groupMembers he hmembers
  unfold Change.apply Policy.remapAll
  dsimp only
  rw [← hfound]
  split at hperf
  · cases hperf
    exact he₁
  · rename_i ids
    obtain ⟨_, e₂, hset, hperf⟩ := perform_bind_eq_ok.mp hperf
    cases hperf
    unfold setSeverities at hset
    refine forM_ok (R := P) (fun id value e e' he hperf => ?_) ids he₁ hset
    exact h.setSeverity he hperf

/-- A severity for all diagnostics of a flavor is applied to the value. -/
theorem Applies.setAll (h : Applies catalog loc P) (he : P value e) {flavor : Flavor}
    {severity : Severity} {done : Bool}
    (hperf : (setAll flavor severity loc).perform e = (.ok done, e')) :
    P ((Change.all flavor severity).apply catalog loc.isSome value) e' := by
  unfold Engine.setAll at hperf
  rw [perform_get_bind, h.catalog he] at hperf
  obtain ⟨_, e₁, hloop, hperf⟩ := perform_bind_eq_ok.mp hperf
  cases hperf
  unfold Change.apply Policy.remapAll Catalog.adjustable
  dsimp only
  rw [List.foldl_filter]
  refine forIn_ok (R := P) (fun id value e next e' he hperf => ?_) _ he hloop
  obtain ⟨adjustable, _, hread, hbody⟩ := perform_bind_eq_ok.mp hperf
  obtain ⟨hfound, rfl⟩ := perform_ofExcept_eq_ok.mp hread
  rw [hfound]
  split at hbody
  · rename_i htrue
    obtain ⟨_, e₂, hset, hyield⟩ := perform_bind_eq_ok.mp hbody
    cases hyield
    rw [if_pos htrue]
    exact ⟨rfl, h.setSeverity he hset⟩
  · rename_i hfalse
    cases hbody
    rw [if_neg hfalse]
    exact ⟨rfl, he⟩

/-- A change that does not fail updates the value by its rule. -/
theorem Applies.perform (h : Applies catalog loc P) (he : P value e) {change : Change}
    (hperf : (change.perform loc).perform e = (.ok (), e')) :
    P (change.apply catalog loc.isSome value) e' := by
  cases change with
  | severity id level => exact h.setSeverity he hperf
  | group flavor name level =>
    obtain ⟨_, e₁, hset, hperf⟩ := perform_bind_eq_ok.mp hperf
    cases hperf
    exact h.setGroup he hset
  | all flavor level =>
    obtain ⟨_, e₁, hset, hperf⟩ := perform_bind_eq_ok.mp hperf
    cases hperf
    exact h.setAll he hset
  | toggle which value => exact h.changePolicy he hperf
  | extension level => exact h.changePolicy he hperf

/-- A change of one mapping is applied to the value. -/
theorem Applies.changeMapping (h : Applies catalog none P) (he : P value e) {id : Int}
    {f : Mapping → Mapping} (hperf : (changeMapping id f).perform e = (.ok (), e')) :
    P (value.remap catalog f id) e' := by
  unfold Engine.changeMapping at hperf
  obtain ⟨ref, e₁, hown, hperf⟩ := perform_bind_eq_ok.mp hperf
  obtain ⟨he₁, hpolicy, hchanged⟩ := h.own he hown
  rw [perform_bind_of_ok (perform_readPolicy ref e₁), perform_get_bind] at hperf
  obtain ⟨mapping, _, hread, hperf⟩ := perform_bind_eq_ok.mp hperf
  obtain ⟨hfound, rfl⟩ := perform_ofExcept_eq_ok.mp hread
  cases hperf
  have hcurrent : value.mappingOf catalog (some id) = .ok mapping := by
    rw [← hpolicy, ← h.catalog he₁]
    exact hfound
  unfold Policy.remap
  rw [hcurrent]
  exact hchanged fun policy => policy.set id (f mapping)

/-- A change of the mappings of a group is applied to the value. -/
theorem Applies.changeGroup (h : Applies catalog none P) (he : P value e) {group : Scalar}
    {f : Mapping → Mapping} {known : Bool}
    (hperf : (changeGroup group f).perform e = (.ok known, e')) :
    P (value.remapAll catalog f (catalog.membersOrNone .warningOrError group)) e' := by
  unfold Engine.changeGroup at hperf
  obtain ⟨found, e₁, hmembers, hperf⟩ := perform_bind_eq_ok.mp hperf
  obtain ⟨he₁, hfound⟩ := h.groupMembers he hmembers
  unfold Policy.remapAll
  rw [← hfound]
  split at hperf
  · cases hperf
    exact he₁
  · rename_i ids
    obtain ⟨_, e₂, hset, hperf⟩ := perform_bind_eq_ok.mp hperf
    cases hperf
    refine forM_ok (R := P) (fun id value e e' he hperf => ?_) ids he₁ hset
    exact h.changeMapping he hperf

end Engine

end Diagnostics
