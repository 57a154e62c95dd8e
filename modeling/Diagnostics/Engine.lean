import Diagnostics.Argument.Store
import Diagnostics.Argument.TokenTable
import Diagnostics.Catalog
import Diagnostics.Consumer
import Diagnostics.PolicyMap
import Diagnostics.Stringifier

/-!
# The engine

An engine reports diagnostics and tracks severity policies by location. This file has its state: what
it was made from, the diagnostic in flight, the totals so far, the policies and the open scopes, the
mailbox for one delayed diagnostic, and a journal of everything delivered and asked. Reporting,
resolving and changing severities are in the files beside it.
-/

set_option autoImplicit false

namespace Diagnostics

/-- The diagnostic in flight, as far as it is bound. -/
structure Draft where
  id : Option Int := none
  location : Option Location := none
  arguments : ArgumentStore := .empty
  ranges : List SourceRange := []
  fixits : List FixIt := []

/-- Counts and flags of a run. `lastLevel` is the level of the last diagnostic that was no note. -/
structure Totals where
  errors : Nat := 0
  warnings : Nat := 0
  errorOccurred : Bool := false
  unrecoverableOccurred : Bool := false
  fatalOccurred : Bool := false
  lastLevel : Severity := .ignored
  deriving DecidableEq

/-- A diagnostic to be reported after the one in flight, with its two texts. -/
structure Delayed where
  id : Int
  first : String
  second : String
  deriving DecidableEq

/-- The state of an engine. Builders are numbered in the order of their reports; the list says which
of them can still be used. The innermost scope comes first. -/
structure Engine where
  catalog : Catalog
  files : FileTable := {}
  locations : Option LocationService := none
  context : Context := {}
  tokens : TokenTable := {}
  consumer : Consumer := .base {}
  outlet : Outlet := {}
  delivered : List StoredDiagnostic := []
  requests : List Request := []
  phase : Phase := .idle
  draft : Draft := {}
  builders : List Bool := []
  delayed : Option Delayed := none
  totals : Totals := {}
  policies : PolicyMap := {}
  scopes : List PolicyRef := []
  extensionsSilenced : Nat := 0

namespace Engine

/-- Writes a line to the log, if it asks for debug lines. -/
def debug (message : String) : Action Engine Unit :=
  modify fun e => { e with outlet.log := e.outlet.log ++ Log.text e.context .debug message }

/-- An operation on the policies. -/
def onPolicies {α : Type} (action : Action PolicyMap α) : Action Engine α :=
  Action.onPart Engine.policies (fun policies e => { e with policies }) action

/-- The engine with no diagnostic in flight. -/
def clearDraft (e : Engine) : Engine :=
  { e with draft := {}, phase := .idle }

/-- The policy that the context asks for at the start. -/
def initialPolicy (context : Context) : Policy :=
  { toggles := context.toggles }

/-- Forgets counts, flags, the delayed diagnostic and the whole history of severities. -/
def reset : Action Engine Unit := do
  modify fun e => { e.clearDraft with
    totals := {}, delayed := none, extensionsSilenced := 0, scopes := [] }
  let (ref, store) := (← get).policies.store.add (initialPolicy (← get).context)
  modify fun e => { e with policies := { e.policies.clear with store } }
  onPolicies (PolicyMap.appendFirst ref)
  debug "Diagnostics engine reset"

/-- A new engine, ready for reports. -/
def start (e : Engine) : Engine :=
  (reset.perform e).2

/-- How many scopes are open. -/
def scopeDepth (e : Engine) : Nat :=
  e.scopes.length

end Engine

end Diagnostics
