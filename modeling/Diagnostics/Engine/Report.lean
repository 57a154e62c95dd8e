import Diagnostics.Engine.Severity
import Diagnostics.Template.Listed

/-!
# Reporting

A report goes through staging, where its arguments are bound, resolving, where its level is found and
the suppression policy applied, and rendering, where its message is written and delivered. Afterwards
the engine is idle again, whatever happened. Only one diagnostic may be in flight.

One delayed diagnostic can be queued. It is reported by itself after the next emission that is not
forced, and may queue another one, so that emissions form a chain.

What renders rich arguments and what happens behind the consumer is up to the front end, which may
call back into the engine.
-/

set_option autoImplicit false

namespace Diagnostics

/-- What an engine is embedded in: how rich arguments are rendered, and what the consumer does on its
own account once it has a diagnostic. -/
structure FrontEnd where
  stringify : Stringifier Engine
  afterDelivery : StoredDiagnostic → Action Engine Unit := fun _ => pure ()

namespace Engine

/-- Queues a diagnostic with two texts, unless one is queued already. -/
def setDelayed (id : Int) (first second : String) : Action Engine Unit := do
  if (← get).delayed.isNone then
    let entry ← ofExcept ((← get).catalog.entry (some id))
    debug s!"Delayed diagnostic {entry.name.display}"
    modify fun e => { e with delayed := some ⟨id, first, second⟩ }

/-- The policy that decides which of the diagnostics that have a level are dropped; the result is the
level to emit at. The flags and counts are brought up to date on the way. -/
def levelToEmit (id : Option Int) (loc : Option Location) : Action Engine (Option Severity) := do
  let level ← levelAt id loc
  let e ← get
  if e.context.suppressAll then return none
  if level ≠ .note then
    modify fun e => { e with totals.lastLevel := level }
  let counted := e.consumer.isCounted
  let totals := (← get).totals
  if totals.fatalOccurred && e.context.suppressAfterFatal &&
      !(level = .note && totals.lastLevel = .fatal) then
    if .error ≤ level && counted then
      modify fun e => { e with totals.errors := e.totals.errors + 1 }
    debug s!"Suppressed diagnostic {describeId id} after a fatal error"
    return none
  if level = .ignored then return none
  if level = .note && totals.lastLevel = .ignored then return none
  if .error ≤ level then
    if ← ofExcept (e.catalog.isOfClass id .error) then
      modify fun e => { e with totals.unrecoverableOccurred := true }
    modify fun e => { e with totals.errorOccurred := true }
    if counted then
      modify fun e => { e with totals.errors := e.totals.errors + 1 }
    let limit := e.context.errorLimit
    if limit ≠ 0 && limit < ((← get).totals.errors : Int) && level = .error then
      debug s!"Error limit {limit} exceeded"
      setDelayed Catalog.tooManyErrorsId "" ""
      return none
  if level = .fatal then
    modify fun e => { e with totals.fatalOccurred := true }
  return some level

/-- Refuses to go on unless the engine is idle. -/
def requireIdle (entry : Entry) (next : Option Int) : Action Engine Unit := do
  let e ← get
  if e.phase ≠ .idle then throw (.ofDefect (.inFlight entry next e.draft.id e.phase))

/-- Starts a report and gives the number of its builder. -/
def report (id : Option Int) (loc : Option Location) : Action Engine Nat := do
  requireIdle .reporting id
  let _ ← ofExcept ((← get).catalog.entry id)
  let builder := (← get).builders.length
  modify fun e => { e with
    draft := { id, location := loc }, phase := .staging, builders := e.builders ++ [true] }
  return builder

/-- Hands a diagnostic to the consumer, and lets the front end act behind that. -/
def deliver (front : FrontEnd) (diagnostic : StoredDiagnostic) : Action Engine Unit := do
  modify fun e => { e with
    delivered := e.delivered ++ [diagnostic], consumer := e.consumer.accept diagnostic }
  let e ← get
  Action.onPart Engine.outlet (fun outlet e => { e with outlet })
    (e.consumer.output e.context e.files diagnostic)
  front.afterDelivery diagnostic

/-- Hands a diagnostic to the consumer and counts it if it is a warning. -/
def deliverCounted (front : FrontEnd) (diagnostic : StoredDiagnostic) : Action Engine Unit := do
  deliver front diagnostic
  if (← get).consumer.isCounted && diagnostic.level = .warning then
    modify fun e => { e with totals.warnings := e.totals.warnings + 1 }

/-- Writes the message of the diagnostic in flight and delivers it. -/
def render (front : FrontEnd) (id : Option Int) (loc : Option Location) (level : Severity) :
    Action Engine Unit := do
  modify fun e => { e with phase := .rendering }
  let e ← get
  let formatter : Formatter Engine :=
    { arguments := e.draft.arguments, stringify := front.stringify, tokens := e.tokens,
      printTree := e.context.printTemplateTree, elideType := e.context.elideType,
      showColors := e.context.showColors }
  let entry ← ofExcept (e.catalog.entry id)
  let message ← formatter.formatValue entry.template
  let draft := (← get).draft
  deliverCounted front
    { id, level, message, location := loc, ranges := draft.ranges, fixits := draft.fixits }

/-- The level that the diagnostic in flight is emitted at, if it is not dropped. A forced one is
dropped only if it is ignored. -/
def resolve (force : Bool) (id : Option Int) (loc : Option Location) :
    Action Engine (Option Severity) := do
  if force then
    let level ← levelAt id loc
    return if level = .ignored then none else some level
  else levelToEmit id loc

/-- One link of a chain of emissions: resolves the diagnostic in flight and delivers it unless it is
dropped. The engine is idle afterwards. -/
def emitOnce (front : FrontEnd) (force : Bool) : Action Engine Bool :=
  Action.ensuring clearDraft do
    let ⟨id, loc, _, _, _⟩ := (← get).draft
    modify fun e => { e with phase := .resolving }
    match ← resolve force id loc with
    | none =>
      let entry ← ofExcept ((← get).catalog.entry id)
      debug s!"Suppressed diagnostic {entry.name.display}"
      return false
    | some level =>
      render front id loc level
      return true

/-- Binds an argument to the diagnostic in flight. -/
def attach (add : ArgumentStore → Except Fault ArgumentStore) : Action Engine Unit := do
  let arguments ← ofExcept (add (← get).draft.arguments)
  modify fun e => { e with draft.arguments := arguments }

/-- Uses a builder up. -/
def spend (builder : Nat) : Action Engine Unit :=
  modify fun e => { e with builders := e.builders.set builder false }

/-- Takes the delayed diagnostic out of the mailbox and reports it, without a location. -/
def emitDelayed (front : FrontEnd) (delayed : Delayed) : Action Engine Unit := do
  modify fun e => { e with delayed := none }
  let builder ← report (some delayed.id) none
  attach fun store => store.add (.text delayed.first)
  attach fun store => store.add (.text delayed.second)
  spend builder
  let _ ← emitOnce front false

/-- How many delayed diagnostics may follow one another before a chain counts as endless. -/
def chainLimit : Nat := 300

/-- Reports delayed diagnostics one after the other until none is queued. Beyond the bound the next one is
taken out of the mailbox, but not reported any more. -/
def flush (front : FrontEnd) : Nat → Action Engine Unit
  | 0 => do
    if (← get).delayed.isSome then
      modify fun e => { e with delayed := none }
      throw .endless
  | bound + 1 => do
    match (← get).delayed with
    | none => pure ()
    | some delayed =>
      emitDelayed front delayed
      flush front bound

/-- Emits the diagnostic in flight, and after it the delayed ones unless the emission is forced. -/
def emitDraft (front : FrontEnd) (force : Bool) : Action Engine Bool := do
  let delivered ← emitOnce front force
  if !force then flush front chainLimit
  return delivered

/-- Whether a builder can still be used. -/
def isActive (e : Engine) (builder : Nat) : Bool :=
  e.builders.getD builder false

/-- Refuses a builder that was emitted or abandoned. -/
def requireActive (builder : Nat) : Action Engine Unit := do
  if !(← get).isActive builder then throw (.ofDefect .builderSpent)

/-- Binds an argument through a builder. -/
def bindArgument (builder : Nat) (add : ArgumentStore → Except Fault ArgumentStore) :
    Action Engine Unit := do
  requireActive builder
  attach add

/-- Binds a range through a builder; without an end it is the single location. -/
def bindRange (builder : Nat) (first last : Option Location) : Action Engine Unit := do
  requireActive builder
  let range : SourceRange := ⟨first, last.or first, true⟩
  modify fun e => { e with draft.ranges := e.draft.ranges ++ [range] }

/-- Binds a fix-it hint through a builder, unless it suggests nothing. -/
def bindFixIt (builder : Nat) (hint : FixIt) : Action Engine Unit := do
  requireActive builder
  if !hint.isNull then
    modify fun e => { e with draft.fixits := e.draft.fixits ++ [hint] }

/-- Emits the diagnostic in flight through a builder, which is spent by that. -/
def emit (front : FrontEnd) (builder : Nat) (force : Bool) : Action Engine Bool := do
  requireActive builder
  spend builder
  emitDraft front force

/-- Drops the diagnostic in flight through a builder, unless the builder is spent. -/
def abandon (builder : Nat) : Action Engine Unit := do
  if (← get).isActive builder then
    spend builder
    modify clearDraft

/-- Runs an action on a new report: the report is emitted at the end unless the builder is spent by
then, and abandoned if the action fails. -/
def withReport (front : FrontEnd) (id : Option Int) (loc : Option Location)
    (body : Nat → Action Engine Unit) : Action Engine Unit := do
  let builder ← report id loc
  try
    body builder
  catch fault =>
    abandon builder
    throw fault
  if (← get).isActive builder then
    let _ ← emit front builder false

/-- Delivers a stored diagnostic as it is. -/
def replay (front : FrontEnd) (diagnostic : StoredDiagnostic) : Action Engine Unit := do
  requireIdle .replaying diagnostic.id
  modify fun e => { e with phase := .rendering }
  Action.ensuring (fun e => { e with phase := .idle }) (deliverCounted front diagnostic)

end Engine

end Diagnostics
