import Diagnostics.Proofs.Engine.Calls
import Diagnostics.Proofs.Lockstep

/-!
# Sessions

A session is what somebody does with an engine who sees its answers: calls, one after the other, where
each may depend on all answers and faults so far and on what can be read off the engine in between. The
renderer of rich arguments and the consumer are sessions as well, and may themselves deliver diagnostics,
to any depth.

Builders are named by numbers that count from where the session began, so that the same session can be
run on engines with different pasts.
-/

set_option autoImplicit false

namespace Diagnostics

namespace Action

variable {σ τ α : Type}

/-- An operation that gives its own outcome and does not fail. -/
def attempt (x : Action σ α) : Action σ (Except Fault α) :=
  ofPerform fun s =>
    let (outcome, s') := x.perform s
    (.ok outcome, s')

/-- An attempt does what the operation does, and gives its outcome. -/
@[simp]
theorem perform_attempt (x : Action σ α) (s : σ) :
    (attempt x).perform s = (.ok (x.perform s).1, (x.perform s).2) := rfl

/-- Operations in lockstep are attempted in lockstep. -/
theorem lockstep_attempt {R : σ → τ → Prop} {x : Action σ α} {y : Action τ α}
    (h : Lockstep R x y) : Lockstep R (attempt x) (attempt y) := by
  intro s t hst
  obtain ⟨hout, hafter⟩ := h s t hst
  rw [perform_attempt, perform_attempt, hout]
  exact ⟨rfl, hafter⟩

end Action

/-! ## Answers -/

/-- What a call gives back. -/
inductive Answer where
  | done
  | flag (value : Bool)
  | builder (builder : Nat)
  | policy (policy : Policy) (isShared : Bool)
  | mapping (mapping : Mapping)
  | level (level : Severity)
  deriving DecidableEq

/-- What a change gives back. -/
def Change.answer (loc : Option Location) : Change → Action Engine Answer
  | severity id level => do
    Engine.setSeverity id level loc
    return .done
  | group flavor name level => return .flag (← Engine.setGroup flavor name level loc)
  | all flavor level => return .flag (← Engine.setAll flavor level loc)
  | toggle which value => do
    Engine.setToggles (fun toggles => which.put value toggles) loc
    return .done
  | extension level => do
    Engine.setExtensionBehavior level loc
    return .done

/-- What a call at a location, or without one, gives back. -/
def LocatedCall.answer (loc : Option Location) : LocatedCall → Action Engine Answer
  | change c => c.answer loc
  | push => do
    Engine.pushScope loc
    return .done
  | pop => return .flag (← Engine.popScope loc)

/-- What a call without a location gives back. -/
def UnlocatedCall.answer : UnlocatedCall → Action Engine Answer
  | call c => c.answer none
  | groupWarningAsError group enabled =>
    return .flag (← Engine.setGroupWarningAsError group enabled)
  | groupErrorAsFatal group enabled => return .flag (← Engine.setGroupErrorAsFatal group enabled)

/-- What a question is answered with. A policy is what it says, and whether others hold it too. -/
def Query.answer (loc : Option Location) : Query → Action Engine Answer
  | policy => do
    let ref ← Engine.policyAt loc
    let policy ← Engine.readPolicy ref
    return .policy policy (← Engine.isShared ref)
  | mapping id => return .mapping (← Engine.mappingAt id loc)
  | severity id => return .level (← Engine.effectiveSeverity id loc)
  | level id => return .level (← Engine.levelAt id loc)

/-- The same work, with builders that count from a base. -/
def Staging.from (base : Nat) : Staging → Staging
  | argument builder add => .argument (base + builder) add
  | range builder first last => .range (base + builder) first last
  | fixIt builder hint => .fixIt (base + builder) hint
  | abandon builder => .abandon (base + builder)
  | delay id first second => .delay id first second

/-- What a plain call gives back, with builders that count from a base. -/
def PlainCall.answer (base : Nat) : PlainCall → Action Engine Answer
  | located call loc => call.answer (some loc)
  | unlocated call => call.answer
  | silence => do
    Engine.silenceExtensions
    return .done
  | unsilence => do
    Engine.unsilenceExtensions
    return .done
  | query question loc => question.answer loc
  | report id loc => return .builder ((← Engine.report id loc) - base)
  | stage staging => do
    (staging.from base).perform
    return .done
  | addFile name text includedAt => do
    Engine.addFile name text includedAt
    return .done
  | reset => do
    Engine.reset
    return .done

/-- What a delivery gives back, with builders that count from a base. -/
def Delivery.answer (base : Nat) (front : FrontEnd) : Delivery → Action Engine Answer
  | emit builder force => return .flag (← Engine.emit front (base + builder) force)
  | replay diagnostic => do
    Engine.replay front diagnostic
    return .done

/-- A change does the same whether or not it is answered. -/
theorem Change.discard_answer (loc : Option Location) (change : Change) :
    (do let _ ← change.answer loc : Action Engine Unit) = change.perform loc := by
  cases change <;> simp [answer, perform]

/-- A call at a location does the same whether or not it is answered. -/
theorem LocatedCall.discard_answer (loc : Option Location) (call : LocatedCall) :
    (do let _ ← call.answer loc : Action Engine Unit) = call.perform loc := by
  cases call with
  | change c => exact c.discard_answer loc
  | _ => simp [answer, perform]

/-- A call without a location does the same whether or not it is answered. -/
theorem UnlocatedCall.discard_answer (call : UnlocatedCall) :
    (do let _ ← call.answer : Action Engine Unit) = call.perform := by
  cases call with
  | call c => exact c.discard_answer none
  | _ => simp [answer, perform]

/-- Nothing but its answer is added to a call. -/
theorem PlainCall.discard_answer (call : PlainCall) :
    (do let _ ← call.answer 0 : Action Engine Unit) = call.perform := by
  cases call with
  | located call loc => exact call.discard_answer (some loc)
  | unlocated call => exact call.discard_answer
  | query query loc =>
    cases query with
    | policy =>
      show (do let _ ← Query.policy.answer loc : Action Engine Unit) = Query.policy.perform loc
      unfold Query.answer Query.perform
      rw [bind_assoc]
      exact bind_congr fun ref => rfl
    | _ => simp [answer, perform, Query.answer, Query.perform]
  | stage staging => cases staging <;> simp [answer, perform, Staging.from]
  | _ => simp [answer, perform]

/-- Nothing but its answer is added to a delivery. -/
theorem Delivery.discard_answer (front : FrontEnd) (delivery : Delivery) :
    (do let _ ← delivery.answer 0 front : Action Engine Unit) = delivery.perform front := by
  cases delivery <;> simp [answer, perform]

/-! ## What can be seen -/

/-- What can be read off an engine at any time. Builders count from a base. -/
structure View where
  totals : Totals
  phase : Phase
  draft : Draft
  delayed : Option Delayed
  extensionsSilenced : Nat
  scopeDepth : Nat
  consumer : Consumer
  files : FileTable
  outlet : Outlet
  isActive : Nat → Bool

/-- What can be read off an engine, its builders counted from a base. -/
def Engine.view (e : Engine) (base : Nat) : View where
  totals := e.totals
  phase := e.phase
  draft := e.draft
  delayed := e.delayed
  extensionsSilenced := e.extensionsSilenced
  scopeDepth := e.scopeDepth
  consumer := e.consumer
  files := e.files
  outlet := e.outlet
  isActive builder := e.isActive (base + builder)

/-! ## Sessions -/

/-- Calls on an engine, each chosen in view of the answers so far, with a result or a fault at the end. A
delivery says how rich arguments are rendered meanwhile, and what the consumer does. `note` writes a
request into the journal. -/
inductive Session : Type → Type 1
  | done {α : Type} (outcome : Except Fault α) : Session α
  | call {α : Type} (call : PlainCall) (next : Except Fault Answer → Session α) : Session α
  | deliver {α : Type} (delivery : Delivery) (stringify : Request → Session Reply)
      (afterDelivery : StoredDiagnostic → Session Unit)
      (next : Except Fault Answer → Session α) : Session α
  | look {α : Type} (next : View → Session α) : Session α
  | note {α : Type} (request : Request) (next : Session α) : Session α

/-- What a session does to an engine, with builders that count from a base. -/
def Session.run (base : Nat) {α : Type} : Session α → Action Engine α
  | done outcome => ofExcept outcome
  | call c next => do
    let answer ← (c.answer base).attempt
    (next answer).run base
  | deliver delivery stringify afterDelivery next => do
    let front : FrontEnd :=
      { stringify := fun request => (stringify request).run base
        afterDelivery := fun diagnostic => (afterDelivery diagnostic).run base }
    let answer ← (delivery.answer base front).attempt
    (next answer).run base
  | look next => do
    let e ← get
    (next (e.view base)).run base
  | note request next => do
    modify fun e => { e with requests := e.requests ++ [request] }
    next.run base

end Diagnostics
