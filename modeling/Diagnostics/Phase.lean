/-!
# Phases of a report

A diagnostic is staged while its arguments are bound, resolved while its severity is looked up,
rendered while its message is written and delivered. Between reports nothing is in flight.
-/

set_option autoImplicit false

namespace Diagnostics

/-- What is being done with the diagnostic in flight, if there is one. -/
inductive Phase where
  | idle
  | staging
  | resolving
  | rendering
  deriving DecidableEq, Inhabited

/-- The name of a phase. -/
def Phase.label : Phase → String
  | idle => "idle"
  | staging => "staging"
  | resolving => "resolving"
  | rendering => "rendering"

end Diagnostics
