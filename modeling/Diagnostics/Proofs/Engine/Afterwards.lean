import Diagnostics.Proofs.Engine.CutOff
import Diagnostics.Proofs.Engine.Processing
import Diagnostics.Proofs.PolicyMap.Grown

/-!
# After an emission

However an emission goes, it ends with nothing in flight: each of its links takes the diagnostic in flight
away at its end, and where the next one cannot be staged, nothing was staged. So the next report is
accepted. This holds for every front end, whatever it does while it is asked to render arguments or told of
a diagnostic, and wherever something fails.

The severities are another matter, since a front end could change them itself. If it leaves them alone, an
emission does so too. All it does is to look at the locations of diagnostics, which enters files that were
not met before.
-/

set_option autoImplicit false

namespace Diagnostics

open Diagnostics.Action PolicyMap

namespace Engine

variable {e e' e'' base : Engine} {front : FrontEnd} {builder : Nat}

/-! ## Nothing in flight -/

/-- Nothing is in flight, and nothing is left of what was. -/
def Clean (e : Engine) : Prop :=
  e.phase = .idle ∧ e.draft = {}

/-- Every link of a chain takes its diagnostic away, whatever happens in it. -/
theorem clean_emitOnce (front : FrontEnd) (force : Bool) (e : Engine) :
    EndsIn true Clean e (emitOnce front force) :=
  fun _ => ⟨rfl, rfl⟩

/-- A delayed diagnostic that cannot be reported leaves nothing in flight. -/
theorem clean_emitDelayed (front : FrontEnd) (delayed : Delayed) :
    Keeps true Clean (emitDelayed front delayed) := by
  intro e he
  rw [emitDelayed_eq]
  rcases stageDelayed_cases delayed e with hstaged | ⟨fault, hrefused⟩
  · refine endsIn_bind_of_ok hstaged ?_
    exact endsIn_bind (clean_emitOnce front false _) fun _ _ _ hclean => endsIn_pure _ hclean
  · exact endsIn_of_perform (perform_bind_of_error hrefused) he

/-- Flushing leaves nothing behind, however it ends. -/
theorem clean_flush (front : FrontEnd) (bound : Nat) : Keeps true Clean (flush front bound) := by
  induction bound with
  | zero =>
    unfold flush
    apply keeps_get_bind
    intro e he
    split
    · exact endsIn_modify_bind (endsIn_throw _ he)
    · exact endsIn_pure _ he
  | succ bound ih =>
    unfold flush
    apply keeps_get_bind
    intro e he
    split
    · exact endsIn_pure _ he
    · exact keeps_bind (clean_emitDelayed front _) (fun _ => ih) e he

/-- An emission ends with nothing in flight. -/
theorem clean_emitDraft (front : FrontEnd) (force : Bool) (e : Engine) :
    EndsIn true Clean e (emitDraft front force) := by
  unfold emitDraft
  apply endsIn_bind (clean_emitOnce front force e)
  intro delivered e' _ hclean
  exact keeps_when (clean_flush front _) (keeps_pure _) e' hclean

/-- With nothing in flight every diagnostic that exists can be reported. -/
theorem Clean.report_isOk (h : e.Clean) {id : Option Int} {entry : CatalogEntry}
    (hentry : e.catalog.entry id = .ok entry) (loc : Option Location) :
    ((report id loc).perform e).1.isOk = true := by
  rw [perform_report h.1 hentry]
  rfl

/-! ## Severities -/

/-- The scopes, the current policy, what all policies say, and what was recorded are as before, but for
files that were entered and have what they inherit. -/
structure Undisturbed (e e' : Engine) : Prop where
  scopes : e'.scopes = e.scopes
  policies : Grown e.policies e'.policies

/-- Where nothing happens, nothing is disturbed. -/
theorem Undisturbed.refl (e : Engine) : Undisturbed e e :=
  ⟨rfl, Grown.refl _⟩

/-- Two steps that disturb nothing come to one. -/
theorem Undisturbed.trans (h : Undisturbed e e') (h' : Undisturbed e' e'') : Undisturbed e e'' :=
  ⟨h'.scopes.trans h.scopes, h.policies.trans h'.policies⟩

/-- What looks at locations at most, wherever it starts, may come anywhere in between. -/
theorem keeps_undisturbed {α : Type} {x : Action Engine α}
    (h : ∀ e, Undisturbed e (x.perform e).2) : Keeps true (Undisturbed base) x :=
  fun e he _ => he.trans (h e)

/-- Looking a policy up disturbs nothing. -/
theorem undisturbed_policyAt (loc : Option Location) :
    Keeps true (Undisturbed base) (policyAt loc) := by
  apply keeps_policyAt
  intro service table l e he
  refine endsIn_onPart (grown_lookup service table l e.policies) fun map hmap => ?_
  exact he.trans ⟨rfl, hmap⟩

/-- Neither changes aside nor a look at the location in flight disturb anything. -/
theorem quiet_undisturbed (base : Engine) : Quiet true (Undisturbed base) where
  aside he ha := he.trans ⟨ha.scopes, by rw [ha.policies]; exact Grown.refl _⟩
  look {e} he := undisturbed_policyAt e.draft.location e he

end Engine

open Engine

/-- A front end leaves the severities alone, whatever else it does and whether it fails or not. -/
structure FrontEnd.Abstains (front : FrontEnd) : Prop where
  stringify : ∀ request e, Undisturbed e ((front.stringify request).perform e).2
  afterDelivery : ∀ diagnostic e, Undisturbed e ((front.afterDelivery diagnostic).perform e).2

/-- A call that changes no severities, opens and closes no scope, and forgets nothing. -/
def PlainCall.SparesSeverities : PlainCall → Prop
  | located _ _ | unlocated _ | reset => False
  | silence | unsilence | query _ _ | report _ _ | stage _ | addFile _ _ _ => True

namespace Engine

variable {base : Engine} {front : FrontEnd}

/-- Emissions and replays leave the severities alone if the front end does. -/
theorem undisturbed_delivery (hfront : front.Abstains) (delivery : Delivery) :
    Keeps true (Undisturbed base) (delivery.perform front) :=
  (quiet_undisturbed base).delivery
    (fun request => keeps_undisturbed (hfront.stringify request))
    (fun diagnostic => keeps_undisturbed (hfront.afterDelivery diagnostic)) delivery

/-- A call that spares severities disturbs nothing. -/
theorem undisturbed_plain {call : PlainCall} (h : call.SparesSeverities) :
    Keeps true (Undisturbed base) call.perform := by
  have hmodify : ∀ f : Engine → Engine, (∀ e, (f e).scopes = e.scopes) →
      (∀ e, (f e).policies = e.policies) →
        Keeps true (Undisturbed base) (modify f : Action Engine PUnit) := by
    intro f hscopes hpolicies
    apply keeps_modify
    intro e he
    exact he.trans ⟨hscopes e, by rw [hpolicies]; exact Grown.refl _⟩
  cases call with
  | located call loc => exact h.elim
  | unlocated call => exact h.elim
  | silence => exact hmodify _ (fun _ => rfl) fun _ => rfl
  | unsilence =>
    refine keeps_bind keeps_get fun e => keeps_when (keeps_throw _) ?_
    exact hmodify _ (fun _ => rfl) fun _ => rfl
  | query query loc => exact keeps_query (undisturbed_policyAt loc) query
  | report id loc =>
    refine keeps_bind (keeps_report (fun e draft phase builders he _ => ?_) id) fun _ => keeps_pure _
    exact he.trans ⟨rfl, Grown.refl _⟩
  | stage staging => exact (quiet_undisturbed base).unstaged.staging staging
  | addFile name text includedAt =>
    refine keeps_bind keeps_get fun e => keeps_bind (keeps_ofExcept _) fun added => ?_
    exact hmodify _ (fun _ => rfl) fun _ => rfl
  | reset => exact h.elim

/-- Calls that spare severities disturb nothing, however many there are and whether they fail or not. -/
theorem undisturbed_trials {e e' : Engine} (h : Trials PlainCall.SparesSeverities e e') :
    Undisturbed e e' := by
  induction h with
  | refl => exact Undisturbed.refl e
  | tail _ hstep ih =>
    obtain ⟨call, hcall, rfl⟩ := hstep
    exact (undisturbed_plain hcall _ ih).of_total

/-- A front end that makes only calls which spare severities, and fails or recovers where they fail,
leaves the severities alone. -/
theorem abstains_of_trials
    (hstring : ∀ request e, Trials PlainCall.SparesSeverities e ((front.stringify request).perform e).2)
    (hafter : ∀ diagnostic e,
      Trials PlainCall.SparesSeverities e ((front.afterDelivery diagnostic).perform e).2) :
    front.Abstains where
  stringify request e := undisturbed_trials (hstring request e)
  afterDelivery diagnostic e := undisturbed_trials (hafter diagnostic e)

/-! ## Emissions -/

/-- However an emission goes and wherever it fails, afterwards nothing is in flight, nothing is left of
what was staged, and every diagnostic of the catalog can be reported. Unless the front end itself changes
severities, the scopes, the current policy, what all policies say and all that was recorded are as before;
there may be new entries of files, with the points that they inherit. -/
theorem clean_after_emission (front : FrontEnd) {e : Engine} {builder : Nat}
    (hactive : e.isActive builder = true) (force : Bool) :
    Clean ((emit front builder force).perform e).2 ∧
      (∀ id loc entry, ((emit front builder force).perform e).2.catalog.entry id = .ok entry →
        ((report id loc).perform ((emit front builder force).perform e).2).1.isOk = true) ∧
      (front.Abstains → Undisturbed e ((emit front builder force).perform e).2) := by
  have hclean : Clean ((emit front builder force).perform e).2 := by
    have hspent : (spend builder).perform e = (.ok (), { e with
        builders := e.builders.set builder false }) := rfl
    unfold emit
    rw [perform_bind_of_ok (perform_requireActive hactive), perform_bind_of_ok hspent]
    exact (clean_emitDraft front force _).of_total
  refine ⟨hclean, fun id loc entry hentry => hclean.report_isOk hentry loc, fun hfront => ?_⟩
  have hdelivery := (undisturbed_delivery hfront (.emit builder force) e (Undisturbed.refl e)).of_total
  rwa [show (Delivery.emit builder force).perform front =
    (do let _ ← emit front builder force) from rfl, perform_discard] at hdelivery

/-- A front end that tries to report a diagnostic while it is asked to render a type. -/
def reentrantFront : FrontEnd where
  stringify _ := do
    let _ ← report (some Catalog.tooManyErrorsId) none
    return ⟨"T", false⟩

/-- The re-entrant front end leaves severities alone, though it fails. -/
theorem abstains_reentrantFront : reentrantFront.Abstains := by
  apply abstains_of_trials
  · intro request e
    refine .single ⟨.report (some Catalog.tooManyErrorsId) none, trivial, ?_⟩
    exact (perform_return _ _ e).trans (perform_discard _ e).symm
  · intro diagnostic e
    exact .refl

/-- An engine with an error about a type in flight. -/
def mistyped : Engine :=
  [PlainCall.located (.change (.toggle .errorsAsFatal true)) ⟨1, 2⟩, .report (some 2) (some ⟨1, 4⟩),
    .stage (.argument 0 fun store => store.add (.rich .type (.string "int")))].foldl
      (fun e call => (call.perform.perform e).2)
      (start { oneFile with catalog := ⟨[Catalog.builtin,
        ⟨2, .text "bad", .string "bad type %0", .error, .error, []⟩], []⟩ })

/-- The report of the front end is refused, the emission fails with it, and the next report is
accepted. -/
theorem clean_after_reentrance : mistyped.isActive 0 = true ∧ reentrantFront.Abstains ∧
    ((emit reentrantFront 0 false).perform mistyped).1 =
      .error (.ofDefect (.inFlight .reporting (some 1) (some 2) .rendering)) ∧
    Clean ((emit reentrantFront 0 false).perform mistyped).2 ∧
    ((report (some 2) none).perform ((emit reentrantFront 0 false).perform mistyped).2).1.isOk = true ∧
    Undisturbed mistyped ((emit reentrantFront 0 false).perform mistyped).2 := by
  have hactive : mistyped.isActive 0 = true := rfl
  obtain ⟨hclean, hreport, hseverities⟩ := clean_after_emission reentrantFront hactive false
  exact ⟨hactive, abstains_reentrantFront, rfl, hclean, hreport (some 2) none _ rfl,
    hseverities abstains_reentrantFront⟩

end Engine

end Diagnostics
