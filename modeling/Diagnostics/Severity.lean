/-!
# Severities

The ordered action levels of a diagnostic, which are also the levels it is emitted at, and the mapping
of one diagnostic kind to a level: the level together with the flags that say where it came from and
which promotions pass it by.
-/

set_option autoImplicit false

namespace Diagnostics

/-- The action levels, from the weakest to the strongest. -/
inductive Severity where
  | ignored
  | note
  | remark
  | warning
  | error
  | fatal
  deriving DecidableEq, Inhabited

namespace Severity

/-- The place of a level in the order. -/
def rank : Severity → Nat
  | ignored => 0
  | note => 1
  | remark => 2
  | warning => 3
  | error => 4
  | fatal => 5

instance : LE Severity := ⟨fun a b => a.rank ≤ b.rank⟩

instance : LT Severity := ⟨fun a b => a.rank < b.rank⟩

instance (a b : Severity) : Decidable (a ≤ b) := inferInstanceAs (Decidable (a.rank ≤ b.rank))

instance (a b : Severity) : Decidable (a < b) := inferInstanceAs (Decidable (a.rank < b.rank))

instance : Max Severity := ⟨fun a b => if a ≤ b then b else a⟩

/-- How a level is written in front of a message. -/
def spelling : Severity → String
  | ignored => "ignored"
  | note => "note"
  | remark => "remark"
  | warning => "warning"
  | error => "error"
  | fatal => "fatal error"

/-- The upper-case name of a level, as catalogs and reports spell it. -/
def name : Severity → String
  | ignored => "IGNORED"
  | note => "NOTE"
  | remark => "REMARK"
  | warning => "WARNING"
  | error => "ERROR"
  | fatal => "FATAL"

/-- All severities, the weakest first. -/
def all : List Severity :=
  [ignored, note, remark, warning, error, fatal]

/-- The severity of a name. -/
def ofName? (text : String) : Option Severity :=
  all.find? fun s => s.name = text

end Severity

/-- Which diagnostics an operation on a whole group is about. -/
inductive Flavor where
  | warningOrError
  | remark
  deriving DecidableEq

/-- The name of a flavor. -/
def Flavor.label : Flavor → String
  | .warningOrError => "warning_or_error"
  | .remark => "remark"

/-- The level of one diagnostic kind.

`isUser` marks a level that was asked for rather than taken from the catalog, `isPragma` one that a
directive in the source asked for, `upgradedFromWarning` one that stayed an error although a warning
was asked for. The last two flags exempt the kind from the promotion of warnings to errors and of
errors to fatal errors. -/
structure Mapping where
  severity : Severity
  isUser : Bool := false
  isPragma : Bool := false
  upgradedFromWarning : Bool := false
  noWarningAsError : Bool := false
  noErrorAsFatal : Bool := false
  deriving DecidableEq, Inhabited

namespace Mapping

/-- A level that was asked for, on the command line or in the source. -/
def requested (severity : Severity) (isPragma : Bool) : Mapping :=
  { severity, isUser := true, isPragma }

end Mapping

end Diagnostics
