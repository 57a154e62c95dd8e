import Diagnostics.Proofs.Engine.Reporting

/-!
# Keeping a property through all calls

A call on an engine is made of few steps that severities depend on: policies are looked up, a policy
that may be changed is found and changed, scopes are opened and closed, files are added and the engine
is reset. `Upkeep` says of a property of engines that these steps keep it, whatever is changed; `Lasting`
says it of whole calls, for a property that not every change of a policy would keep. From either follows
that all runs keep the property, whatever is reported and whatever a front end does in between.

Runs of calls that do not fail lead to the `Reached` engines. Calls that fail leave the engine where
they stopped, and a front end can go on from there; `Attained` covers that.
-/

set_option autoImplicit false

namespace Diagnostics

open Diagnostics.Action

namespace Engine

/-- A change of anything but what locations are read with, the catalog, the policies and the scopes. -/
structure Apart (e e' : Engine) : Prop where
  catalog : e'.catalog = e.catalog
  files : e'.files = e.files
  locations : e'.locations = e.locations
  policies : e'.policies = e.policies
  scopes : e'.scopes = e.scopes

/-- A property that the steps of all calls keep. -/
structure Upkeep (faulty : Bool) (P : Engine → Prop) : Prop where
  apart : ∀ {e e' : Engine}, P e → Apart e e' → P e'
  look : ∀ loc, Keeps faulty P (policyAt loc)
  own : ∀ loc, Keeps faulty P (ownPolicy loc)
  change : ∀ {loc : Option Location} {e e' : Engine} {ref : PolicyRef}, P e →
    (ownPolicy loc).perform e = (.ok ref, e') → ∀ f, P { e' with policies := e'.policies.changed ref f }
  push : ∀ loc, Keeps faulty P (pushScope loc)
  pop : ∀ loc, Keeps faulty P (popScope loc)
  addFile : ∀ name text includedAt, Keeps faulty P (addFile name text includedAt)
  reset : Keeps faulty P reset

variable {faulty : Bool} {P : Engine → Prop}

/-- What lies aside lies apart. -/
theorem Aside.apart {e e' : Engine} (h : Aside e e') : Apart e e' :=
  ⟨h.catalog, h.files, h.locations, h.policies, h.scopes⟩

/-- A property that is kept up survives every edit of a private policy. -/
theorem Upkeep.editable (h : Upkeep faulty P) (loc : Option Location) : Editable faulty loc P where
  log _ _ he := h.apart he ⟨rfl, rfl, rfl, rfl, rfl⟩
  look := h.look loc
  own := h.own loc
  change he hperf f := h.change he hperf f

/-- A property that calls keep one by one, and that does not depend on what lies apart. -/
structure Lasting (faulty : Bool) (P : Engine → Prop) : Prop where
  apart : ∀ {e e' : Engine}, P e → Apart e e' → P e'
  look : ∀ loc, Keeps faulty P (policyAt loc)
  change : ∀ (change : Change) (loc : Option Location), Keeps faulty P (change.perform loc)
  groupWarningAsError : ∀ group enabled,
    Keeps faulty P (UnlocatedCall.groupWarningAsError group enabled).perform
  groupErrorAsFatal : ∀ group enabled,
    Keeps faulty P (UnlocatedCall.groupErrorAsFatal group enabled).perform
  push : ∀ loc, Keeps faulty P (pushScope loc)
  pop : ∀ loc, Keeps faulty P (popScope loc)
  addFile : ∀ name text includedAt, Keeps faulty P (addFile name text includedAt)
  reset : Keeps faulty P reset

/-- A property that is kept up lasts. -/
theorem Upkeep.lasting (h : Upkeep faulty P) : Lasting faulty P where
  apart := h.apart
  look := h.look
  change change loc := (h.editable loc).perform change
  groupWarningAsError := (h.editable none).groupWarningAsError
  groupErrorAsFatal := (h.editable none).groupErrorAsFatal
  push := h.push
  pop := h.pop
  addFile := h.addFile
  reset := h.reset

/-- A lasting property is a quiet one. -/
theorem Lasting.quiet (h : Lasting faulty P) : Quiet faulty P where
  aside he ha := h.apart he ha.apart
  look {e} he := h.look e.draft.location e he

/-- A lasting property survives every call at a location. -/
theorem Lasting.located (h : Lasting faulty P) (call : LocatedCall) (loc : Option Location) :
    Keeps faulty P (call.perform loc) := by
  cases call with
  | change c => exact h.change c loc
  | push => exact h.push loc
  | pop => exact keeps_bind (h.pop loc) fun _ => keeps_pure _

/-- A lasting property survives every call without a location. -/
theorem Lasting.unlocated (h : Lasting faulty P) (call : UnlocatedCall) :
    Keeps faulty P call.perform := by
  cases call with
  | call c => exact h.located c none
  | groupWarningAsError group enabled => exact h.groupWarningAsError group enabled
  | groupErrorAsFatal group enabled => exact h.groupErrorAsFatal group enabled

/-- Plain calls keep what calls keep one by one. -/
theorem Lasting.plain (h : Lasting faulty P) (call : PlainCall) : Keeps faulty P call.perform := by
  have hsilencing : ∀ change : Nat → Nat, Keeps faulty P (modify fun e : Engine =>
      { e with extensionsSilenced := change e.extensionsSilenced }) := fun change =>
    keeps_modify fun _ he => h.apart he ⟨rfl, rfl, rfl, rfl, rfl⟩
  cases call with
  | located call loc => exact h.located call (some loc)
  | unlocated call => exact h.unlocated call
  | silence => exact hsilencing (· + 1)
  | unsilence =>
    exact keeps_bind keeps_get fun e => keeps_when (keeps_throw _) (hsilencing (· - 1))
  | query query loc => exact keeps_query (h.look loc) query
  | report id loc =>
    refine keeps_bind (keeps_report (fun _ _ _ _ he _ => ?_) id) fun _ => keeps_pure _
    exact h.apart he ⟨rfl, rfl, rfl, rfl, rfl⟩
  | stage staging => exact h.quiet.unstaged.staging staging
  | addFile name text includedAt => exact h.addFile name text includedAt
  | reset => exact h.reset

/-- What new engines have and all calls keep, reachable engines have, also if the front end makes calls
while diagnostics are delivered. -/
theorem Lasting.reached (h : Lasting false P) (hstart : ∀ e : Engine, P e.start) {front : FrontEnd}
    (hfront : front.Makes fun _ => True) {e : Engine} (he : Reached front e) : P e := by
  refine he.invariant hstart h.plain fun delivery => ?_
  exact h.quiet.delivery (hfront.keeps_stringify fun call _ => h.plain call)
    (hfront.keeps_afterDelivery fun call _ => h.plain call) delivery

end Engine

/-! ## Calls that may fail -/

open Engine

/-- What one call does to an engine, whether it fails or not, and likewise a change apart from severities.
Diagnostics are delivered to certain front ends. -/
inductive Attempt (inner : FrontEnd → Prop) : Engine → Engine → Prop
  | plain (call : PlainCall) (e : Engine) : Attempt inner e (call.perform.perform e).2
  | deliver {front : FrontEnd} (delivery : Delivery) (e : Engine) (h : inner front) :
      Attempt inner e ((delivery.perform front).perform e).2
  | apart {e e' : Engine} (h : Apart e e') : Attempt inner e e'

/-- A front end acts on the engine only by calls, from which it may recover where they fail. -/
structure FrontEnd.Attempts (front : FrontEnd) (inner : FrontEnd → Prop) : Prop where
  stringify : ∀ request e,
    Relation.ReflTransGen (Attempt inner) e ((front.stringify request).perform e).2
  afterDelivery : ∀ diagnostic e,
    Relation.ReflTransGen (Attempt inner) e ((front.afterDelivery diagnostic).perform e).2

/-- A front end that acts by calls, among them deliveries to front ends of the same kind, nested up to a
depth. -/
def FrontEnd.Acts : Nat → FrontEnd → Prop
  | 0, front => front.Attempts fun _ => False
  | depth + 1, front => front.Attempts (FrontEnd.Acts depth)

/-- The engines that calls lead to, whether they fail or not, from a new one on. -/
def Attained (front : FrontEnd) (e : Engine) : Prop :=
  ∃ engine : Engine, Relation.ReflTransGen (Attempt (· = front)) engine.start e

/-- One call more attains the engine behind it. -/
theorem Attained.next {front : FrontEnd} {e : Engine} (h : Attained front e) (call : PlainCall) :
    Attained front (call.perform.perform e).2 := by
  obtain ⟨engine, h⟩ := h
  exact ⟨engine, h.tail (.plain call e)⟩

/-- Any number of calls lead on from an engine that calls lead to. -/
theorem Attained.calls {front : FrontEnd} {e : Engine} (h : Attained front e)
    (calls : List PlainCall) :
    Attained front (calls.foldl (fun e call => (call.perform.perform e).2) e) := by
  induction calls generalizing e with
  | nil => exact h
  | cons call calls ih => exact ih (h.next call)

/-- The quoting front end makes no call at all. -/
theorem acts_quotingFront (depth : Nat) : FrontEnd.Acts depth quotingFront := by
  have hidle : ∀ inner, quotingFront.Attempts inner := fun inner =>
    ⟨fun _ _ => .refl, fun _ _ => .refl⟩
  cases depth with
  | zero => exact hidle _
  | succ depth => exact hidle _

namespace Engine

variable {P : Engine → Prop} {inner : FrontEnd → Prop} {e e' : Engine}

/-- A lasting property survives whatever calls attempt. -/
theorem Lasting.attempts (h : Lasting true P)
    (hinner : ∀ front, inner front → ∀ delivery : Delivery, Keeps true P (delivery.perform front))
    (hrun : Relation.ReflTransGen (Attempt inner) e e') (he : P e) : P e' := by
  induction hrun with
  | refl => exact he
  | tail _ hstep ih =>
    cases hstep with
    | plain call => exact (h.plain call _ ih).of_total
    | deliver delivery _ hfront => exact (hinner _ hfront delivery _ ih).of_total
    | apart ha => exact h.apart ih ha

/-- A lasting property survives a delivery to a front end that acts by such calls. -/
theorem Lasting.delivery_of_attempts (h : Lasting true P)
    (hinner : ∀ front, inner front → ∀ delivery : Delivery, Keeps true P (delivery.perform front))
    {front : FrontEnd} (hfront : front.Attempts inner) (delivery : Delivery) :
    Keeps true P (delivery.perform front) := by
  refine h.quiet.delivery (fun request e he => ?_) (fun diagnostic e he => ?_) delivery
  · exact fun _ => h.attempts hinner (hfront.stringify request e) he
  · exact fun _ => h.attempts hinner (hfront.afterDelivery diagnostic e) he

/-- Deliveries keep what all calls keep, by induction on how deep they are nested. -/
theorem Lasting.delivery (h : Lasting true P) {depth : Nat} {front : FrontEnd}
    (hfront : front.Acts depth) (delivery : Delivery) : Keeps true P (delivery.perform front) := by
  induction depth generalizing front delivery with
  | zero => exact h.delivery_of_attempts (fun _ hfalse => hfalse.elim) hfront delivery
  | succ depth ih =>
    exact h.delivery_of_attempts (fun front hin delivery => ih hin delivery) hfront delivery

/-- What new engines have and all calls keep in any case, all engines have that calls lead to. -/
theorem Lasting.attained (h : Lasting true P) (hstart : ∀ e : Engine, P e.start) {depth : Nat}
    {front : FrontEnd} (hfront : front.Acts depth) (he : Attained front e) : P e := by
  obtain ⟨engine, hrun⟩ := he
  refine h.attempts (fun front' heq delivery => ?_) hrun (hstart engine)
  rw [heq]
  exact h.delivery hfront delivery

end Engine

end Diagnostics
