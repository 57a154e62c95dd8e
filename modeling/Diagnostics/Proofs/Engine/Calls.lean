import Diagnostics.Engine.Control
import Diagnostics.Engine.Report
import Diagnostics.Proofs.Outcome
import Mathlib.Logic.Relation

/-!
# Calls on an engine

The public operations of an engine as data, so that runs of any length and order can be spoken about.
Severity calls change severities or open and close scopes, with or without a location; queries ask;
staging works on the diagnostic in flight. These do not involve the front end. Emissions and replays
do, and the front end may make calls of the other kinds while they run.
-/

set_option autoImplicit false

namespace Diagnostics

open Diagnostics.Action

/-- The global toggles, one by one. -/
inductive Toggle where
  | ignoreAllWarnings
  | enableAllWarnings
  | warningsAsErrors
  | errorsAsFatal
  deriving DecidableEq

/-- Switches one toggle. -/
def Toggle.put (value : Bool) (toggles : Toggles) : Toggle → Toggles
  | ignoreAllWarnings => { toggles with ignoreAllWarnings := value }
  | enableAllWarnings => { toggles with enableAllWarnings := value }
  | warningsAsErrors => { toggles with warningsAsErrors := value }
  | errorsAsFatal => { toggles with errorsAsFatal := value }

/-- A change of severities, which can be made at a location or without one. -/
inductive Change where
  | severity (id : Int) (severity : Severity)
  | group (flavor : Flavor) (group : Scalar) (severity : Severity)
  | all (flavor : Flavor) (severity : Severity)
  | toggle (which : Toggle) (value : Bool)
  | extension (severity : Severity)

/-- What a change does to an engine. -/
def Change.perform (loc : Option Location) : Change → Action Engine Unit
  | severity id level => Engine.setSeverity id level loc
  | group flavor name level => do
    let _ ← Engine.setGroup flavor name level loc
  | all flavor level => do
    let _ ← Engine.setAll flavor level loc
  | toggle which value => Engine.setToggles (fun toggles => which.put value toggles) loc
  | extension level => Engine.setExtensionBehavior level loc

/-- A call that can be made at a location or without one. -/
inductive LocatedCall where
  | change (change : Change)
  | push
  | pop

/-- What such a call does to an engine. -/
def LocatedCall.perform (loc : Option Location) : LocatedCall → Action Engine Unit
  | change c => c.perform loc
  | push => Engine.pushScope loc
  | pop => do
    let _ ← Engine.popScope loc

/-- A call without a location: besides the other ones, the promotion of a group, which takes none. -/
inductive UnlocatedCall where
  | call (call : LocatedCall)
  | groupWarningAsError (group : Scalar) (enabled : Bool)
  | groupErrorAsFatal (group : Scalar) (enabled : Bool)

/-- What a call without a location does to an engine. -/
def UnlocatedCall.perform : UnlocatedCall → Action Engine Unit
  | call c => c.perform none
  | groupWarningAsError group enabled => do
    let _ ← Engine.setGroupWarningAsError group enabled
  | groupErrorAsFatal group enabled => do
    let _ ← Engine.setGroupErrorAsFatal group enabled

/-- A question about severities. -/
inductive Query where
  | policy
  | mapping (id : Option Int)
  | severity (id : Option Int)
  | level (id : Option Int)

/-- Asks a question about a location. -/
def Query.perform (loc : Option Location) : Query → Action Engine Unit
  | policy => do
    let _ ← Engine.policyAt loc
  | mapping id => do
    let _ ← Engine.mappingAt id loc
  | severity id => do
    let _ ← Engine.effectiveSeverity id loc
  | level id => do
    let _ ← Engine.levelAt id loc

/-- Work on the diagnostic in flight and on the delayed one. -/
inductive Staging where
  | argument (builder : Nat) (add : ArgumentStore → Except Fault ArgumentStore)
  | range (builder : Nat) (first last : Option Location)
  | fixIt (builder : Nat) (hint : FixIt)
  | abandon (builder : Nat)
  | delay (id : Int) (first second : String)

/-- What staging does to an engine. -/
def Staging.perform : Staging → Action Engine Unit
  | argument builder add => Engine.bindArgument builder add
  | range builder first last => Engine.bindRange builder first last
  | fixIt builder hint => Engine.bindFixIt builder hint
  | abandon builder => Engine.abandon builder
  | delay id first second => Engine.setDelayed id first second

/-- Adds a file to the table that the engine reads locations with. -/
def Engine.addFile (name text : String) (includedAt : Option Location) : Action Engine Unit := do
  let (_, files) ← ofExcept ((← get).files.add name text includedAt)
  modify fun e => { e with files }

/-- A call that does not involve the front end. -/
inductive PlainCall where
  | located (call : LocatedCall) (loc : Location)
  | unlocated (call : UnlocatedCall)
  | silence
  | unsilence
  | query (query : Query) (loc : Option Location)
  | report (id : Option Int) (loc : Option Location)
  | stage (staging : Staging)
  | addFile (name text : String) (includedAt : Option Location)
  | reset

/-- What a plain call does to an engine. -/
def PlainCall.perform : PlainCall → Action Engine Unit
  | located call loc => call.perform (some loc)
  | unlocated call => call.perform
  | silence => Engine.silenceExtensions
  | unsilence => Engine.unsilenceExtensions
  | query question loc => question.perform loc
  | report id loc => do
    let _ ← Engine.report id loc
  | stage staging => staging.perform
  | addFile name text includedAt => Engine.addFile name text includedAt
  | reset => Engine.reset

/-- A call that delivers diagnostics. -/
inductive Delivery where
  | emit (builder : Nat) (force : Bool)
  | replay (diagnostic : StoredDiagnostic)

/-- What a delivery does to an engine with a front end. -/
def Delivery.perform (front : FrontEnd) : Delivery → Action Engine Unit
  | emit builder force => do
    let _ ← Engine.emit front builder force
  | replay diagnostic => Engine.replay front diagnostic

/-! ## Front ends that make calls -/

/-- What certain calls that do not fail can do to an engine, one after the other. -/
def Moves (allowed : PlainCall → Prop) : Engine → Engine → Prop :=
  Relation.ReflTransGen fun e e' => ∃ call, allowed call ∧ call.perform.perform e = (.ok (), e')

/-- A front end acts on the engine only by certain plain calls. Where one of them fails the front end
fails with it. -/
structure FrontEnd.Makes (front : FrontEnd) (allowed : PlainCall → Prop) : Prop where
  stringify : ∀ request e reply e', (front.stringify request).perform e = (.ok reply, e') →
    Moves allowed e e'
  afterDelivery : ∀ diagnostic e e', (front.afterDelivery diagnostic).perform e = (.ok (), e') →
    Moves allowed e e'

/-- What every single call keeps is kept by any number of them. -/
theorem Moves.keeps {allowed : PlainCall → Prop} {P : Engine → Prop}
    (h : ∀ call, allowed call → Keeps false P call.perform) {e e' : Engine}
    (hm : Moves allowed e e') (he : P e) : P e' := by
  induction hm with
  | refl => exact he
  | tail _ hstep ih =>
    obtain ⟨call, hcall, hperf⟩ := hstep
    exact (h call hcall _ ih).of_ok hperf

/-- What the allowed calls keep is kept while a front end is asked for a text. -/
theorem FrontEnd.Makes.keeps_stringify {front : FrontEnd} {allowed : PlainCall → Prop}
    {P : Engine → Prop} (hf : front.Makes allowed)
    (h : ∀ call, allowed call → Keeps false P call.perform) (request : Request) :
    Keeps false P (front.stringify request) :=
  keeps_of_ok fun e reply e' he hperf => (hf.stringify request e reply e' hperf).keeps h he

/-- What the allowed calls keep is kept behind a delivery. -/
theorem FrontEnd.Makes.keeps_afterDelivery {front : FrontEnd} {allowed : PlainCall → Prop}
    {P : Engine → Prop} (hf : front.Makes allowed)
    (h : ∀ call, allowed call → Keeps false P call.perform) (diagnostic : StoredDiagnostic) :
    Keeps false P (front.afterDelivery diagnostic) :=
  keeps_of_ok fun e _ e' he hperf => (hf.afterDelivery diagnostic e e' hperf).keeps h he

/-- A front end that quotes values and does nothing on its own account. -/
def quotingFront : FrontEnd where
  stringify := Stringifier.quoting

/-- The quoting front end makes no call at all. -/
theorem makes_quotingFront (allowed : PlainCall → Prop) : quotingFront.Makes allowed where
  stringify request e reply e' h := by
    cases h
    exact Relation.ReflTransGen.refl
  afterDelivery diagnostic e e' h := by
    cases h
    exact Relation.ReflTransGen.refl

/-- An engine with one source file and the built-in catalog, before its start. -/
def Engine.oneFile : Engine where
  catalog := .initial
  files := ⟨[⟨"main.c", "", none⟩]⟩
  locations := some .files

/-! ## Reachable engines -/

/-- The engines that calls which do not fail lead to, from a new one on. -/
inductive Reached (front : FrontEnd) : Engine → Prop
  | start (e : Engine) : Reached front e.start
  | plain {e e' : Engine} (call : PlainCall) (h : Reached front e)
      (ok : call.perform.perform e = (.ok (), e')) : Reached front e'
  | deliver {e e' : Engine} (delivery : Delivery) (h : Reached front e)
      (ok : (delivery.perform front).perform e = (.ok (), e')) : Reached front e'

/-- One call more that succeeds reaches the engine behind it. -/
theorem Reached.next {front : FrontEnd} {e : Engine} (h : Reached front e) (call : PlainCall)
    (ok : (call.perform.perform e).1 = .ok ()) : Reached front (call.perform.perform e).2 :=
  .plain call h (Prod.ext ok rfl)

/-- What new engines have and every call keeps, all reachable engines have. -/
theorem Reached.invariant {front : FrontEnd} {P : Engine → Prop} {e : Engine} (h : Reached front e)
    (hstart : ∀ e : Engine, P e.start) (hplain : ∀ call : PlainCall, Keeps false P call.perform)
    (hdeliver : ∀ delivery : Delivery, Keeps false P (delivery.perform front)) : P e := by
  induction h with
  | start e => exact hstart e
  | plain call _ ok ih => exact (hplain call _ ih).of_ok ok
  | deliver delivery _ ok ih => exact (hdeliver delivery _ ih).of_ok ok

end Diagnostics
