import Diagnostics.Engine.Severity
import Diagnostics.PolicyMap.Dump

/-!
# Changing severities

Changes without a location apply to the current policy, as on a command line; changes with one take
effect at that point of the source. A policy that others hold is copied before it is changed. Scopes
save the current policy and restore it later.
-/

set_option autoImplicit false

namespace Diagnostics.Engine

/-- The current policy. -/
def currentPolicy : Action Engine PolicyRef := do
  match (← get).policies.current with
  | some ref => pure ref
  | none => throw .partMissing

/-- Whether a policy has more than one holder. -/
def isShared (ref : PolicyRef) : Action Engine Bool := do
  return ((← get).policies.store.get ref).isShared

/-- Adds a copy of a policy to the store. -/
def copyPolicy (ref : PolicyRef) : Action Engine PolicyRef := do
  let store := (← get).policies.store
  let (copy, store) := store.add (store.get ref).policy
  modify fun e => { e with policies.store := store }
  return copy

/-- Makes a policy the current one. -/
def replaceCurrent (ref : PolicyRef) : Action Engine Unit :=
  modify fun e => { e with policies := e.policies.replaceCurrent ref }

/-- The policy that a change without a location may modify: the current one, or a copy of it that
becomes current if others hold it. -/
def ownCurrent : Action Engine PolicyRef := do
  let ref ← currentPolicy
  if ← isShared ref then
    let copy ← copyPolicy ref
    replaceCurrent copy
    debug "New severity state for command-line change"
    return copy
  return ref

/-- The policy that a change at a location may modify: the current one if it took effect right there
and nobody else holds it, or a copy that is recorded to take effect there. -/
def ownAt (loc : Location) : Action Engine PolicyRef := do
  let some service := (← get).locations | throw (.ofDefect .resolverMissing)
  let base ← policyAt (some loc)
  let policies := (← get).policies
  if policies.location = some loc && policies.current = some base &&
      !(policies.store.get base).isShared then
    return base
  let copy ← copyPolicy base
  onPolicies (PolicyMap.append service (← get).files loc copy)
  debug ("New severity state at " ++ loc.describe)
  return copy

/-- The policy that a change may modify. -/
def ownPolicy (loc : Option Location) : Action Engine PolicyRef :=
  match loc with
  | none => ownCurrent
  | some loc => ownAt loc

/-- Changes the policy at a location, or the current one. -/
def changePolicy (loc : Option Location) (f : Policy → Policy) : Action Engine Unit := do
  let ref ← ownPolicy loc
  modify fun e => { e with policies.store := e.policies.store.change ref f }

/-- The mapping that a request makes of the current one: a request for a warning never weakens an
error, and exemptions from promotion stay. -/
def requestedMapping (current : Mapping) (severity : Severity) (isPragma : Bool) : Mapping :=
  let upgraded := severity = .warning && .error ≤ current.severity
  { Mapping.requested (if upgraded then current.severity else severity) isPragma with
    upgradedFromWarning := upgraded
    noWarningAsError := current.noWarningAsError
    noErrorAsFatal := current.noErrorAsFatal }

/-- Maps a diagnostic to a level from a location on, or in the current policy. Errors and notes can
only be made errors. -/
def setSeverity (id : Int) (severity : Severity) (loc : Option Location) : Action Engine Unit := do
  let catalog := (← get).catalog
  let entry ← ofExcept (catalog.entry (some id))
  if !(← ofExcept (catalog.isWarningOrExtension (some id))) && severity < .error then
    throw (.ofDefect (.errorMappedBelow entry.name.display severity))
  if loc.isSome && (← get).locations.isNone then throw (.ofDefect .resolverMissing)
  let current ← mappingAt (some id) loc
  let mapping := requestedMapping current severity loc.isSome
  changePolicy loc fun policy => policy.set id mapping
  let place := (loc.map Location.describe).getD "<command line>"
  debug s!"{entry.name.display} -> {mapping.severity.spelling} at {place}"

/-- The members of a group, or nothing if there are none. -/
def groupMembers (flavor : Flavor) (group : Scalar) : Action Engine (Option (List Int)) := do
  match (← get).catalog.members flavor group with
  | .ok ids => return some ids
  | .error (.groupUnknown _) | .error (.groupEmpty _ _) =>
    debug s!"Unknown diagnostic group '{group.display}'"
    return none
  | .error fault => throw fault

/-- Sets the severities of several diagnostics, one after the other. -/
def setSeverities (ids : List Int) (severity : Severity) (loc : Option Location) :
    Action Engine Unit :=
  ids.forM fun id => setSeverity id severity loc

/-- Maps all members of a group; false if the group has none. -/
def setGroup (flavor : Flavor) (group : Scalar) (severity : Severity) (loc : Option Location) :
    Action Engine Bool := do
  match ← groupMembers flavor group with
  | none => return false
  | some ids =>
    setSeverities ids severity loc
    return true

/-- Maps all diagnostics of a flavor that may be mapped to any level. -/
def setAll (flavor : Flavor) (severity : Severity) (loc : Option Location) : Action Engine Bool := do
  let catalog := (← get).catalog
  for id in catalog.allIds flavor do
    if ← ofExcept (catalog.isWarningOrExtension (some id)) then
      setSeverity id severity loc
  return true

/-- Changes the mapping of a diagnostic in the current policy, which gets one if it has none. -/
def changeMapping (id : Int) (f : Mapping → Mapping) : Action Engine Unit := do
  let ref ← ownCurrent
  let mapping ← ofExcept ((← readPolicy ref).mappingOf (← get).catalog (some id))
  modify fun e => { e with
    policies.store := e.policies.store.change ref fun policy => policy.set id (f mapping) }

/-- Changes the mappings of all members of a group; false if the group has none. -/
def changeGroup (group : Scalar) (f : Mapping → Mapping) : Action Engine Bool := do
  match ← groupMembers .warningOrError group with
  | none => return false
  | some ids =>
    ids.forM fun id => changeMapping id f
    return true

/-- Makes the warnings of a group errors, or exempts them from becoming errors. -/
def setGroupWarningAsError (group : Scalar) (enabled : Bool) : Action Engine Bool :=
  if enabled then setGroup .warningOrError group .error none
  else changeGroup group fun mapping => { mapping with noWarningAsError := true }

/-- Makes the diagnostics of a group fatal, or exempts them from becoming fatal. -/
def setGroupErrorAsFatal (group : Scalar) (enabled : Bool) : Action Engine Bool :=
  if enabled then setGroup .warningOrError group .fatal none
  else changeGroup group fun mapping => { mapping with
    severity := if mapping.severity = .fatal then .error else mapping.severity
    noErrorAsFatal := true }

/-- Changes the toggles at a location, or without one. -/
def setToggles (f : Toggles → Toggles) (loc : Option Location) : Action Engine Unit :=
  changePolicy loc fun policy => { policy with toggles := f policy.toggles }

/-- Sets the level that extensions are raised to. -/
def setExtensionBehavior (severity : Severity) (loc : Option Location) : Action Engine Unit :=
  changePolicy loc fun policy => { policy with extensionBehavior := severity }

/-- Silences all extensions that are off by default, until this is taken back as often. -/
def silenceExtensions : Action Engine Unit :=
  modify fun e => { e with extensionsSilenced := e.extensionsSilenced + 1 }

/-- Takes back one silencing of extensions. -/
def unsilenceExtensions : Action Engine Unit := do
  if (← get).extensionsSilenced = 0 then throw (.ofDefect .silencingUnbalanced)
  modify fun e => { e with extensionsSilenced := e.extensionsSilenced - 1 }

/-- Opens a scope: saves the current policy. -/
def pushScope (loc : Option Location) : Action Engine Unit := do
  let ref ← currentPolicy
  modify fun e => { e with
    policies.store := e.policies.store.retain ref, scopes := ref :: e.scopes }
  let depth := (← get).scopeDepth
  debug s!"Pushed severity scope at {Location.describe? loc} (depth {depth})"

/-- Makes a policy current again, from a location on if there is one. -/
def restore (ref : PolicyRef) (loc : Option Location) : Action Engine Unit := do
  let e ← get
  if e.policies.current ≠ some ref then
    match loc, e.locations with
    | some loc, some service => onPolicies (PolicyMap.append service e.files loc ref)
    | _, _ => replaceCurrent ref

/-- Closes the innermost scope: restores the policy it saved. False if no scope is open. -/
def popScope (loc : Option Location) : Action Engine Bool := do
  match (← get).scopes with
  | [] =>
    debug s!"Severity scope pop at {Location.describe? loc} without a matching push"
    return false
  | saved :: outer =>
    restore saved loc
    modify fun e => { e with
      scopes := outer, policies.store := e.policies.store.release saved }
    let depth := (← get).scopeDepth
    debug s!"Popped severity scope at {Location.describe? loc} (depth {depth})"
    debug ("Severity states:\n" ++ (← get).policies.dump)
    return true

end Diagnostics.Engine
