import Diagnostics.Action
import Diagnostics.Aggregator
import Diagnostics.Log
import Diagnostics.StoredDiagnostic

/-!
# Consumers

A consumer receives the diagnostics that are emitted. Most consumers count warnings and errors; some
keep what they receive, log it, hand it on or feed an aggregator. Receiving has two parts: `accept`
changes the consumer itself, `output` is what it does to the world outside, which is the log and the
aggregator. The second part can fail, because it may ask for the spelling of a location; the first
part has happened by then.
-/

set_option autoImplicit false

namespace Diagnostics

/-- How many warnings and errors were received. -/
structure Tally where
  warnings : Nat := 0
  errors : Nat := 0
  deriving DecidableEq, Inhabited

/-- Counts a diagnostic of a level: fatal errors are errors, and weaker levels do not count. -/
def Tally.count (tally : Tally) (level : Severity) : Tally :=
  if level = .warning then { tally with warnings := tally.warnings + 1 }
  else if .error ≤ level then { tally with errors := tally.errors + 1 }
  else tally

/-- The kinds of consumers.

A forwarding consumer hands everything to its target, which also decides about counting. A printing
consumer logs headers, in a context of its own or in that of the run. An aggregating consumer feeds the
aggregator under its label. -/
inductive Consumer where
  | base (tally : Tally)
  | ignoring
  | storing (tally : Tally) (kept : List StoredDiagnostic)
  | uncounted (kept : List StoredDiagnostic)
  | forwarding (target : Consumer)
  | printing (tally : Tally) (context : Option Context) (service : Option LocationService)
  | aggregating (tally : Tally) (label : String) (service : Option LocationService)
  deriving DecidableEq

/-- What consumers have an effect on outside of themselves. -/
structure Outlet where
  log : String := ""
  aggregator : Aggregator String := {}

namespace Consumer

/-- Whether what a consumer accepts is counted; a forwarding consumer counts what its target counts. -/
def isCounted : Consumer → Bool
  | ignoring => false
  | uncounted _ => false
  | forwarding target => target.isCounted
  | _ => true

/-- The counts of a consumer; one that forwards counts nothing itself. -/
def tally : Consumer → Tally
  | base tally => tally
  | storing tally _ => tally
  | printing tally _ _ => tally
  | aggregating tally _ _ => tally
  | _ => {}

/-- The consumer at the end of a chain of forwarding ones. -/
def innermost : Consumer → Consumer
  | forwarding target => target.innermost
  | other => other

/-- The diagnostics that a consumer keeps. -/
def kept : Consumer → List StoredDiagnostic
  | storing _ kept => kept
  | uncounted kept => kept
  | _ => []

/-- The consumer after it received a diagnostic. -/
def accept (diagnostic : StoredDiagnostic) : Consumer → Consumer
  | base tally => base (tally.count diagnostic.level)
  | ignoring => ignoring
  | storing tally kept => storing (tally.count diagnostic.level) (kept ++ [diagnostic])
  | uncounted kept => uncounted (kept ++ [diagnostic])
  | forwarding target => forwarding (target.accept diagnostic)
  | printing tally context service => printing (tally.count diagnostic.level) context service
  | aggregating tally label service => aggregating (tally.count diagnostic.level) label service

/-- The level a header is logged at. -/
def logLevelOf (level : Severity) : LogLevel :=
  if .error ≤ level then .error else .warning

/-- What a consumer does to the log and the aggregator when it receives a diagnostic. -/
def output (run : Context) (table : FileTable) (diagnostic : StoredDiagnostic) :
    Consumer → Action Outlet Unit
  | forwarding target => target.output run table diagnostic
  | printing _ context service => do
    let header ← ofExcept (diagnostic.header service table)
    modify fun outlet => { outlet with
      log := outlet.log ++ Log.text (context.getD run) (logLevelOf diagnostic.level) header }
  | aggregating _ label service => do
    let (file, line, column) ← match diagnostic.location, service with
      | some loc, some service => ofExcept (service.spelling table loc)
      | _, _ => pure ("", 0, 0)
    modify fun outlet => { outlet with
      aggregator := outlet.aggregator.record label file line column diagnostic.message }
  | _ => pure ()

/-- The consumer before it accepted anything. -/
def clear : Consumer → Consumer
  | base _ => base {}
  | ignoring => ignoring
  | storing _ _ => storing {} []
  | uncounted _ => uncounted []
  | forwarding target => forwarding target.clear
  | printing _ context service => printing {} context service
  | aggregating _ label service => aggregating {} label service

end Consumer

end Diagnostics
