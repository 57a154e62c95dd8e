import Diagnostics.Proofs.Engine.Reporting

/-!
# Calls that report nothing

Only emissions, replays and resets have to do with what was reported: the counts and flags, the journal and
the consumer. `Unreported` says that these are as they were. All other calls leave an engine so, whether
they fail or not, and therefore whatever a front end does in between by such calls.

Most of these calls leave even more alone. Changes of severities, scopes, questions and new files have
nothing to do with the diagnostic in flight, the builders and the mailbox either; `Elsewhere` says so.
-/

set_option autoImplicit false

namespace Diagnostics

open Diagnostics.Action

/-- A call that has nothing to do with diagnostics in flight or delayed. -/
def PlainCall.IsElsewhere : PlainCall → Prop
  | report _ _ | stage _ | reset => False
  | _ => True

namespace Engine

/-- Nothing was reported, and neither the catalog nor the context changed. -/
structure Unreported (e e' : Engine) : Prop where
  catalog : e'.catalog = e.catalog
  context : e'.context = e.context
  consumer : e'.consumer = e.consumer
  totals : e'.totals = e.totals
  delivered : e'.delivered = e.delivered

/-- Nothing changed but policies, scopes, files, the log and the silencing of extensions. -/
def Elsewhere (e e' : Engine) : Prop :=
  ∃ files outlet policies scopes extensionsSilenced,
    e' = { e with files, outlet, policies, scopes, extensionsSilenced }

variable {α : Type} {faulty : Bool} {base e e' e'' : Engine} {loc : Option Location}

/-- Where nothing happens, nothing is reported. -/
theorem Unreported.refl (e : Engine) : Unreported e e :=
  ⟨rfl, rfl, rfl, rfl, rfl⟩

/-- Nothing is reported by two steps neither of which reports anything. -/
theorem Unreported.trans (h : Unreported e e') (h' : Unreported e' e'') : Unreported e e'' where
  catalog := h'.catalog.trans h.catalog
  context := h'.context.trans h.context
  consumer := h'.consumer.trans h.consumer
  totals := h'.totals.trans h.totals
  delivered := h'.delivered.trans h.delivered

/-- Where nothing happens, nothing changes elsewhere. -/
theorem Elsewhere.refl (e : Engine) : Elsewhere e e :=
  ⟨_, _, _, _, _, rfl⟩

/-- Two changes elsewhere come to one. -/
theorem Elsewhere.trans (h : Elsewhere e e') (h' : Elsewhere e' e'') : Elsewhere e e'' := by
  obtain ⟨_, _, _, _, _, rfl⟩ := h
  obtain ⟨_, _, _, _, _, rfl⟩ := h'
  exact ⟨_, _, _, _, _, rfl⟩

/-- A change elsewhere reports nothing. -/
theorem Elsewhere.unreported (h : Elsewhere e e') : Unreported e e' := by
  obtain ⟨_, _, _, _, _, rfl⟩ := h
  exact ⟨rfl, rfl, rfl, rfl, rfl⟩

/-! ## Steps of calls -/

/-- An operation that sets the engine changes what its function changes. -/
theorem elsewhere_modify {f : Engine → Engine} (hf : ∀ e, Elsewhere e (f e)) :
    Keeps faulty (Elsewhere base) (modify f : Action Engine PUnit) :=
  keeps_modify fun e h => h.trans (hf e)

/-- Logging is a change elsewhere. -/
theorem elsewhere_debug (message : String) : Keeps faulty (Elsewhere base) (debug message) :=
  elsewhere_modify fun _ => ⟨_, _, _, _, _, rfl⟩

/-- Whatever is done to the policies. -/
theorem elsewhere_onPolicies (action : Action PolicyMap α) :
    Keeps faulty (Elsewhere base) (onPolicies action) := fun _ h =>
  endsIn_onPart (R := fun _ => True) (fun _ => trivial) fun _ _ =>
    h.trans ⟨_, _, _, _, _, rfl⟩

/-- Looking a policy up is a change elsewhere, for a file may be entered. -/
theorem elsewhere_policyAt (loc : Option Location) :
    Keeps faulty (Elsewhere base) (policyAt loc) :=
  keeps_policyAt (fun _ _ _ => elsewhere_onPolicies _) loc

/-- Reading the current policy is a change elsewhere, for the first file may be entered. -/
theorem elsewhere_currentPolicy : Keeps faulty (Elsewhere base) currentPolicy := by
  refine keeps_get_bind fun e h => ?_
  split
  · exact endsIn_pure _ h
  · exact endsIn_throw _ h

/-- Copying a policy is a change elsewhere. -/
theorem elsewhere_copyPolicy (ref : PolicyRef) : Keeps faulty (Elsewhere base) (copyPolicy ref) := by
  refine keeps_bind keeps_get fun e => keeps_bind (elsewhere_modify fun _ => ?_) fun _ => keeps_pure _
  exact ⟨_, _, _, _, _, rfl⟩

/-- Making a policy the current one is a change elsewhere. -/
theorem elsewhere_replaceCurrent (ref : PolicyRef) :
    Keeps faulty (Elsewhere base) (replaceCurrent ref) :=
  elsewhere_modify fun _ => ⟨_, _, _, _, _, rfl⟩

/-- Making the current policy a private one is a change elsewhere. -/
theorem elsewhere_ownCurrent : Keeps faulty (Elsewhere base) ownCurrent := by
  refine keeps_bind elsewhere_currentPolicy fun ref => ?_
  refine keeps_bind (keeps_bind keeps_get fun _ => keeps_pure _) fun shared => ?_
  exact keeps_ite (keeps_bind (elsewhere_copyPolicy ref) fun copy =>
    keeps_bind (elsewhere_replaceCurrent copy) fun _ =>
      keeps_bind (elsewhere_debug _) fun _ => keeps_pure _) (keeps_pure _)

/-- Making the policy at a location a private one is a change elsewhere. -/
theorem elsewhere_ownAt (l : Location) : Keeps faulty (Elsewhere base) (ownAt l) := by
  unfold ownAt
  refine keeps_get_bind fun e h => ?_
  split
  · refine keeps_bind (elsewhere_policyAt _) (fun found => keeps_bind keeps_get fun _ => ?_) e h
    exact keeps_ite (keeps_pure _) (keeps_bind (elsewhere_copyPolicy found) fun copy =>
      keeps_bind keeps_get fun _ => keeps_bind (elsewhere_onPolicies _) fun _ =>
        keeps_bind (elsewhere_debug _) fun _ => keeps_pure _)
  · exact endsIn_throw _ h

/-- Both ways to a private policy are changes elsewhere. -/
theorem elsewhere_ownPolicy (loc : Option Location) :
    Keeps faulty (Elsewhere base) (ownPolicy loc) := by
  cases loc with
  | none => exact elsewhere_ownCurrent
  | some l => exact elsewhere_ownAt l

/-- Looking a level up is a change elsewhere. -/
theorem elsewhere_levelAt (id : Option Int) (loc : Option Location) :
    Keeps faulty (Elsewhere base) (levelAt id loc) :=
  keeps_levelAt (elsewhere_policyAt loc) id

/-- Opening a scope is a change elsewhere. -/
theorem elsewhere_pushScope (loc : Option Location) :
    Keeps faulty (Elsewhere base) (pushScope loc) := by
  refine keeps_bind elsewhere_currentPolicy fun ref => keeps_bind (elsewhere_modify fun _ => ?_) fun _ =>
    keeps_bind keeps_get fun _ => elsewhere_debug _
  exact ⟨_, _, _, _, _, rfl⟩

/-- Recording a policy at a location is a change elsewhere. -/
theorem elsewhere_restore (ref : PolicyRef) (loc : Option Location) :
    Keeps faulty (Elsewhere base) (restore ref loc) := by
  unfold restore
  refine keeps_bind keeps_get fun e => keeps_ite ?_ (keeps_pure _)
  split
  · exact elsewhere_onPolicies _
  · exact elsewhere_replaceCurrent _

/-- Closing a scope is a change elsewhere. -/
theorem elsewhere_popScope (loc : Option Location) :
    Keeps faulty (Elsewhere base) (popScope loc) := by
  unfold popScope
  refine keeps_get_bind fun e h => ?_
  split
  · exact keeps_bind (elsewhere_debug _) (fun _ => keeps_pure _) e h
  · refine keeps_bind (elsewhere_restore _ _) (fun _ => ?_) e h
    refine keeps_bind (elsewhere_modify fun _ => ⟨_, _, _, _, _, rfl⟩) fun _ => ?_
    exact keeps_bind keeps_get fun _ => keeps_bind (elsewhere_debug _) fun _ =>
      keeps_bind keeps_get fun _ => keeps_bind (elsewhere_debug _) fun _ => keeps_pure _

/-! ## Calls -/

/-- A change elsewhere may be followed by any edit of a private policy. -/
theorem editable_elsewhere (loc : Option Location) : Editable faulty loc (Elsewhere base) where
  log _ _ h := h.trans ⟨_, _, _, _, _, rfl⟩
  look := elsewhere_policyAt loc
  own := elsewhere_ownPolicy loc
  change h hperf _ := by
    have howned : Keeps false (Elsewhere base) (ownPolicy loc) := elsewhere_ownPolicy loc
    exact ((howned _ h).of_ok hperf).trans ⟨_, _, _, _, _, rfl⟩

/-- Every call at a location is a change elsewhere. -/
theorem elsewhere_located (call : LocatedCall) (loc : Option Location) :
    Keeps faulty (Elsewhere base) (call.perform loc) := by
  cases call with
  | change change => exact (editable_elsewhere loc).perform change
  | push => exact elsewhere_pushScope loc
  | pop => exact keeps_bind (elsewhere_popScope loc) fun _ => keeps_pure _

/-- Calls that have nothing to do with diagnostics leave them and everything around them alone. -/
theorem keeps_elsewhere {call : PlainCall} (hcall : call.IsElsewhere) :
    Keeps faulty (Elsewhere base) call.perform := by
  cases call with
  | located call loc => exact elsewhere_located call (some loc)
  | unlocated call =>
    cases call with
    | call call => exact elsewhere_located call none
    | groupWarningAsError group enabled =>
      exact (editable_elsewhere none).groupWarningAsError group enabled
    | groupErrorAsFatal group enabled =>
      exact (editable_elsewhere none).groupErrorAsFatal group enabled
  | silence => exact elsewhere_modify fun _ => ⟨_, _, _, _, _, rfl⟩
  | unsilence =>
    exact keeps_bind keeps_get fun _ =>
      keeps_when (keeps_throw _) (elsewhere_modify fun _ => ⟨_, _, _, _, _, rfl⟩)
  | query query loc => exact keeps_query (elsewhere_policyAt loc) query
  | addFile name text includedAt =>
    exact keeps_bind keeps_get fun _ => keeps_bind (keeps_ofExcept _) fun _ =>
      elsewhere_modify fun _ => ⟨_, _, _, _, _, rfl⟩
  | report id loc => exact hcall.elim
  | stage staging => exact hcall.elim
  | reset => exact hcall.elim

/-- A call that has nothing to do with diagnostics is a change elsewhere, whether or not it succeeds. -/
theorem elsewhere_perform {call : PlainCall} (hcall : call.IsElsewhere) (e : Engine) :
    Elsewhere e (call.perform.perform e).2 :=
  (keeps_elsewhere hcall e (.refl e)).of_total

/-- Staging reports nothing. -/
theorem unstaged_unreported : Unstaged (Unreported base) := fun _ _ h hs =>
  h.trans ⟨hs.catalog, hs.context, hs.consumer, hs.totals, hs.delivered⟩

/-- Calls apart from emissions, replays and resets report nothing. -/
theorem keeps_unreported {call : PlainCall} (hcall : call ≠ .reset) :
    Keeps faulty (Unreported base) call.perform := by
  by_cases helse : call.IsElsewhere
  · exact fun e h _ => h.trans (elsewhere_perform helse e).unreported
  · cases call with
    | report id loc =>
      refine keeps_bind (keeps_report (fun _ _ _ _ h _ => ?_) id) fun _ => keeps_pure _
      exact h.trans ⟨rfl, rfl, rfl, rfl, rfl⟩
    | stage staging => exact unstaged_unreported.staging staging
    | reset => exact absurd rfl hcall
    | _ => exact absurd trivial helse

/-- A call that fails reports nothing either. -/
theorem unreported_perform {call : PlainCall} (hcall : call ≠ .reset) (e : Engine) :
    Unreported e (call.perform.perform e).2 :=
  (keeps_unreported hcall e (.refl e)).of_total

end Engine

end Diagnostics
