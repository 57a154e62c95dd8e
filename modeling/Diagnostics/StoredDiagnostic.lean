import Diagnostics.Location.FileTable
import Diagnostics.Severity

/-!
# Stored diagnostics

A stored diagnostic is fully resolved: its level and its message are final. Consumers receive these;
they can be kept and replayed later.
-/

set_option autoImplicit false

namespace Diagnostics

/-- A diagnostic with its final level and message. -/
structure StoredDiagnostic where
  id : Option Int
  level : Severity
  message : String
  location : Option Location := none
  ranges : List SourceRange := []
  fixits : List FixIt := []
  deriving DecidableEq

/-- The one-line header of a diagnostic: the place, if there is one and a service tells it, the level
and the message. -/
def StoredDiagnostic.header (diagnostic : StoredDiagnostic) (service : Option LocationService)
    (table : FileTable) : Except Fault String := do
  let place ← match diagnostic.location, service with
    | some loc, some service =>
      let (name, line, column) ← service.spelling table loc
      .ok s!"{name}:{line}:{column}: "
    | _, _ => .ok ""
  .ok s!"{place}{diagnostic.level.spelling}: {diagnostic.message}"

end Diagnostics
