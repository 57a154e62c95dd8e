import Diagnostics.Engine

/-!
# Which level a diagnostic has

The level follows from the policy in effect at the location. A mapping, or else the default of the
catalog, gives a level to start from; then the global toggles act on it, one after the other: ignored
diagnostics are woken up, extensions are silenced or raised, warnings are silenced, and warnings are
promoted to errors and errors to fatal errors.
-/

set_option autoImplicit false

namespace Diagnostics

namespace Policy

/-- The mapping of a diagnostic: its own one, or the default of the catalog. -/
def mappingOf (policy : Policy) (catalog : Catalog) (id : Option Int) : Except Fault Mapping :=
  match id.bind policy.get? with
  | some mapping => .ok mapping
  | none => catalog.defaultMapping id

/-- The level with ignored diagnostics woken up, unless somebody asked for it or it is a remark. -/
def awaken (policy : Policy) (entry : CatalogEntry) (mapping : Mapping) : Severity :=
  if policy.toggles.enableAllWarnings && mapping.severity = .ignored && !mapping.isUser &&
      entry.diagClass ≠ .remark then .warning
  else mapping.severity

/-- The level with warnings silenced, also those that are errors only by promotion. -/
def silence (policy : Policy) (entry : CatalogEntry) (level : Severity) : Severity :=
  if policy.toggles.ignoreAllWarnings &&
      (level = .warning || (.error ≤ level && entry.severity < .error)) then .ignored
  else level

/-- The level with warnings promoted to errors and errors to fatal errors, unless the mapping exempts
the diagnostic. -/
def promote (policy : Policy) (mapping : Mapping) (level : Severity) : Severity :=
  let level :=
    if level = .warning && policy.toggles.warningsAsErrors && !mapping.noWarningAsError then
      .error
    else level
  if level = .error && policy.toggles.errorsAsFatal && !mapping.noErrorAsFatal then .fatal
  else level

/-- The level of a diagnostic under a policy; `silenced` is whether extensions are silenced. -/
def level (policy : Policy) (entry : CatalogEntry) (mapping : Mapping) (silenced : Bool) :
    Severity :=
  let level := policy.awaken entry mapping
  let isExtension := entry.diagClass = .extension
  if silenced && isExtension && entry.severity = .ignored then .ignored
  else
    let level :=
      if isExtension && !mapping.isUser then max level policy.extensionBehavior else level
    if level = .ignored then .ignored
    else
      let level := policy.silence entry level
      if level = .ignored then .ignored else policy.promote mapping level

end Policy

namespace Engine

/-- The policy in effect at a location, or the current one without a location or a service. -/
def policyAt (loc : Option Location) : Action Engine PolicyRef := do
  let e ← get
  let found ← match loc, e.locations with
    | some loc, some service => onPolicies (PolicyMap.lookup service e.files loc)
    | _, _ => pure e.policies.current
  match found with
  | some ref => pure ref
  | none => throw .partMissing

/-- What a policy says. -/
def readPolicy (ref : PolicyRef) : Action Engine Policy := do
  return ((← get).policies.store.get ref).policy

/-- What a diagnostic is mapped to at a location, or without one. -/
def mappingAt (id : Option Int) (loc : Option Location) : Action Engine Mapping := do
  let policy ← readPolicy (← policyAt loc)
  ofExcept (policy.mappingOf (← get).catalog id)

/-- The level of a diagnostic at a location, notes included. -/
def effectiveSeverity (id : Option Int) (loc : Option Location) : Action Engine Severity := do
  let policy ← readPolicy (← policyAt loc)
  let e ← get
  let mapping ← ofExcept (policy.mappingOf e.catalog id)
  let entry ← ofExcept (e.catalog.entry id)
  return policy.level entry mapping (0 < e.extensionsSilenced)

/-- The level a diagnostic is reported at: notes are always notes. -/
def levelAt (id : Option Int) (loc : Option Location) : Action Engine Severity := do
  if ← ofExcept ((← get).catalog.isOfClass id .note) then return .note
  effectiveSeverity id loc

end Engine

end Diagnostics
