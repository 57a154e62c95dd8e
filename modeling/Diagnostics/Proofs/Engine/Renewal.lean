import Diagnostics.Proofs.Engine.BehindReports
import Diagnostics.Proofs.Engine.Session
import Diagnostics.Proofs.Engine.Upkeep

/-!
# A reset engine is a new one

A reset leaves an engine that is a new engine behind the past of the old one: the policies that were made
are still in the store, but neither a point of a file nor a scope nor the map itself refers to them. Since
all calls go in lockstep behind a past, no session can tell the reset engine from the new one, and none of
the old policies is read, changed or held again.
-/

set_option autoImplicit false

namespace Diagnostics

open Diagnostics.Action

namespace Engine

variable {past : Engine}

/-! ## Answers behind a past -/

/-- A change is answered behind a past as without one. -/
theorem behind_changeAnswer (loc : Option Location) (change : Change) :
    Lockstep (IsBehind past) (change.answer loc) (change.answer loc) := by
  cases change with
  | severity id level => exact lockstep_bind (behind_setSeverity _ _ _) fun _ => lockstep_pure _
  | group flavor name level => exact lockstep_bind (behind_setGroup _ _ _ _) fun _ => lockstep_pure _
  | all flavor level => exact lockstep_bind (behind_setAll _ _ _) fun _ => lockstep_pure _
  | toggle which value => exact lockstep_bind (behind_changePolicy _ _) fun _ => lockstep_pure _
  | extension level => exact lockstep_bind (behind_changePolicy _ _) fun _ => lockstep_pure _

/-- A call at a location is answered behind a past as without one. -/
theorem behind_locatedAnswer (loc : Option Location) (call : LocatedCall) :
    Lockstep (IsBehind past) (call.answer loc) (call.answer loc) := by
  cases call with
  | change change => exact behind_changeAnswer loc change
  | push => exact lockstep_bind (behind_pushScope loc) fun _ => lockstep_pure _
  | pop => exact lockstep_bind (behind_popScope loc) fun _ => lockstep_pure _

/-- A call without a location is answered behind a past as without one. -/
theorem behind_unlocatedAnswer (call : UnlocatedCall) :
    Lockstep (IsBehind past) call.answer call.answer := by
  cases call with
  | call call => exact behind_locatedAnswer none call
  | groupWarningAsError group enabled =>
    exact lockstep_bind (behind_setGroupWarningAsError _ _) fun _ => lockstep_pure _
  | groupErrorAsFatal group enabled =>
    exact lockstep_bind (behind_setGroupErrorAsFatal _ _) fun _ => lockstep_pure _

/-- A query is answered behind a past as without one. -/
theorem behind_queryAnswer (loc : Option Location) (query : Query) :
    Lockstep (IsBehind past) (query.answer loc) (query.answer loc) := by
  cases query with
  | policy =>
    refine lockstep_bind_renamed (behind_policyAt loc) fun ref => ?_
    refine lockstep_bind (behind_readPolicy ref) fun policy => ?_
    exact lockstep_bind (behind_isShared ref) fun _ => lockstep_pure _
  | mapping id => exact lockstep_bind (behind_mappingAt id loc) fun _ => lockstep_pure _
  | severity id => exact lockstep_bind (behind_effectiveSeverity id loc) fun _ => lockstep_pure _
  | level id => exact lockstep_bind (behind_levelAt id loc) fun _ => lockstep_pure _

/-- Staging goes through the same builder, counted from the past on. -/
theorem behind_staging (base : Nat) (staging : Staging) :
    Lockstep (IsBehind past) (staging.from base).perform
      (staging.from (past.builders.length + base)).perform := by
  cases staging with
  | delay id first second => exact behind_setDelayed id first second
  | argument builder add =>
    simp only [Staging.from, Nat.add_assoc]
    exact behind_bindArgument (base + builder) add
  | range builder first last =>
    simp only [Staging.from, Nat.add_assoc]
    exact behind_bindRange (base + builder) first last
  | fixIt builder hint =>
    simp only [Staging.from, Nat.add_assoc]
    exact behind_bindFixIt (base + builder) hint
  | abandon builder =>
    simp only [Staging.from, Nat.add_assoc]
    exact behind_abandon (base + builder)

/-- A plain call is answered as on the engine without a past, if builders count from the end of it. -/
theorem behind_plainAnswer (base : Nat) (call : PlainCall) :
    Lockstep (IsBehind past) (call.answer base) (call.answer (past.builders.length + base)) := by
  cases call with
  | located call loc => exact behind_locatedAnswer (some loc) call
  | unlocated call => exact behind_unlocatedAnswer call
  | silence => exact lockstep_bind (behind_modify fun _ => rfl) fun _ => lockstep_pure _
  | unsilence => exact lockstep_bind behind_unsilenceExtensions fun _ => lockstep_pure _
  | query query loc => exact behind_queryAnswer loc query
  | report id loc =>
    refine lockstep_bind_renamed (behind_report id loc) fun builder => ?_
    rw [Nat.add_sub_add_left]
    exact lockstep_pure _
  | stage staging => exact lockstep_bind (behind_staging base staging) fun _ => lockstep_pure _
  | addFile name text includedAt =>
    exact lockstep_bind (behind_addFile _ _ _) fun _ => lockstep_pure _
  | reset => exact lockstep_bind behind_reset fun _ => lockstep_pure _

/-- A delivery is answered behind a past as without one. -/
theorem behind_deliveryAnswer (base : Nat) {front front' : FrontEnd}
    (hfront : front.Matches past front') (delivery : Delivery) :
    Lockstep (IsBehind past) (delivery.answer base front)
      (delivery.answer (past.builders.length + base) front') := by
  cases delivery with
  | emit builder force =>
    refine lockstep_bind ?_ fun _ => lockstep_pure _
    rw [Nat.add_assoc]
    exact behind_emit hfront (base + builder) force
  | replay diagnostic => exact lockstep_bind (behind_replay hfront _) fun _ => lockstep_pure _

/-! ## Sessions behind a past -/

/-- The past cannot be seen. -/
theorem view_behind (e : Engine) (base : Nat) :
    (e.behind past).view (past.builders.length + base) = e.view base := by
  simp only [view, View.mk.injEq, behind_totals, behind_phase, behind_draft, behind_delayed,
    behind_extensionsSilenced, scopeDepth_behind, behind_consumer, behind_files, true_and]
  refine ⟨rfl, funext fun builder => ?_⟩
  rw [Nat.add_assoc, isActive_behind]

/-- A session goes in lockstep behind a past, whatever it makes of its answers. The induction is on the
session, so that its front ends are known to match where it delivers. -/
theorem behind_run (base : Nat) {α : Type} (session : Session α) :
    Lockstep (IsBehind past) (session.run base) (session.run (past.builders.length + base)) := by
  induction session with
  | done outcome => exact lockstep_ofExcept outcome
  | call call next ih =>
    exact lockstep_bind (lockstep_attempt (behind_plainAnswer base call)) fun answer => ih answer
  | deliver delivery stringify afterDelivery next hstringify hafter ih =>
    have hfront : FrontEnd.Matches past
        { stringify := fun request => (stringify request).run base
          afterDelivery := fun diagnostic => (afterDelivery diagnostic).run base }
        { stringify := fun request => (stringify request).run (past.builders.length + base)
          afterDelivery := fun diagnostic =>
            (afterDelivery diagnostic).run (past.builders.length + base) } :=
      ⟨hstringify, hafter⟩
    have hdelivery := lockstep_attempt (behind_deliveryAnswer base hfront delivery)
    exact lockstep_bind hdelivery fun answer => ih answer
  | look next ih =>
    apply behind_get_bind
    intro e
    rw [view_behind]
    exact ih _
  | note request next ih =>
    refine lockstep_bind (behind_modify fun e => ?_) fun _ => ih
    simp [behind]

/-! ## What is left of a past -/

/-- Nothing of a past is in use any more: its policies are as they were, nobody holds one of them and none
of them is current, and its builders are as they were too. -/
structure Leaves (past e : Engine) : Prop where
  policies : ∀ ref < past.made.length, e.policies.store.get ref = past.policies.store.get ref
  holders : ∀ ref < past.made.length, e.policies.holders ref + e.scopes.count ref = 0
  current : ∀ ref < past.made.length, e.policies.current ≠ some ref
  builders : ∀ builder < past.builders.length, e.isActive builder = past.isActive builder

/-- An engine that is put behind a past leaves it alone. -/
theorem leaves_behind (e : Engine) : Leaves past (e.behind past) where
  policies ref h := by
    rw [behind_policies, PolicyMap.behind_store, PolicyStore.get_behind_of_lt _ _ h]
    rfl
  holders ref h := by
    rw [behind_policies, PolicyMap.holders_behind_of_lt _ _ h, behind_scopes, Nat.zero_add,
      List.count_eq_zero, List.mem_map]
    rintro ⟨saved, -, rfl⟩
    omega
  current ref h := by
    rw [behind_policies, PolicyMap.behind_current]
    exact map_shift_ne_of_lt h _
  builders builder h := by
    simp [isActive, behind, List.getD_eq_getElem?_getD, List.getElem?_append_left h]

/-! ## Resetting -/

/-- The parts that an engine was made from, before its start. -/
def blank (e : Engine) : Engine where
  catalog := e.catalog
  files := e.files
  locations := e.locations
  context := e.context
  tokens := e.tokens
  consumer := e.consumer
  outlet := e.outlet

/-- A reset makes nothing of what an engine has been through. -/
theorem perform_reset_blank (e : Engine) : reset.perform (e.blank.behind e) = reset.perform e := by
  have hblank : e.blank.behind e = { e with
      phase := .idle, draft := {}, delayed := none, totals := {}, extensionsSilenced := 0
      scopes := [], policies := { store := e.policies.store } } := by
    simp [blank, behind, made, PolicyMap.behind, PolicyStore.behind]
  rw [hblank]
  rfl

/-- A reset engine is a new one behind the past of the old one. -/
theorem perform_reset_eq (e : Engine) : reset.perform e = (.ok (), e.blank.start.behind e) := by
  obtain ⟨hout, hafter⟩ := behind_reset e.blank (e.blank.behind e) rfl
  rw [perform_reset_blank] at hout hafter
  exact Prod.ext hout.symm hafter

/-- A session goes on a reset engine as on a new one, which is behind the past afterwards. -/
theorem perform_run_reset (e : Engine) {α : Type} (session : Session α) :
    (session.run e.builders.length).perform (reset.perform e).2 =
      (((session.run 0).perform e.blank.start).1,
        ((session.run 0).perform e.blank.start).2.behind e) := by
  rw [perform_reset_eq]
  obtain ⟨hout, hafter⟩ := behind_run 0 session e.blank.start (e.blank.start.behind e) rfl
  exact Prod.ext hout.symm hafter

/-- After a reset every session has the same outcome as on a new engine made from the same parts,
whatever calls it makes in view of the answers, faults, counts and flags so far. Afterwards the reset
engine looks like the other one, the same diagnostics were delivered since, and nothing that was there
before the reset was changed or is in use; the builders of before stay spent if they were. -/
theorem session_after_reset (e : Engine) (hspent : ∀ builder, e.isActive builder = false)
    {α : Type} (session : Session α) :
    let resumed := (session.run e.builders.length).perform (reset.perform e).2
    let fresh := (session.run 0).perform e.blank.start
    (reset.perform e).1 = .ok () ∧ resumed.1 = fresh.1 ∧ resumed.2 = fresh.2.behind e ∧
      resumed.2.view e.builders.length = fresh.2.view 0 ∧
      resumed.2.delivered = e.delivered ++ fresh.2.delivered ∧ Leaves e resumed.2 ∧
      ∀ builder < e.builders.length, resumed.2.isActive builder = false := by
  intro resumed fresh
  have hresumed : resumed = (fresh.1, fresh.2.behind e) := perform_run_reset e session
  have hleaves : Leaves e (fresh.2.behind e) := leaves_behind fresh.2
  rw [perform_reset_eq, hresumed]
  refine ⟨rfl, rfl, rfl, view_behind fresh.2 0, rfl, hleaves, fun builder h => ?_⟩
  rw [hleaves.builders builder h]
  exact hspent builder

/-- An engine that has been used: a report was abandoned, a severity was changed in the file, and a scope
is open. -/
def used : Engine :=
  [.report (some Catalog.tooManyErrorsId) none, .stage (.abandon 0),
    .located (.change (.toggle .warningsAsErrors true)) ⟨1, 0⟩,
    .unlocated (.call .push)].foldl (fun e (call : PlainCall) => (call.perform.perform e).2) oneFile.start

/-- Reports an error and counts the errors. -/
def reportOne : Session Nat :=
  .call (.report (some Catalog.tooManyErrorsId) none) fun _ =>
    .deliver (.emit 0 false) (fun request => .done (.ok { text := Stringifier.quotedText request }))
      (fun _ => .done (.ok ())) fun _ => .look fun view => .done (.ok view.totals.errors)

/-- One error is counted behind a reset, whatever was before. -/
theorem reportOne_after_reset :
    Attained quotingFront used ∧ (∀ builder, used.isActive builder = false) ∧
      ((reportOne.run used.builders.length).perform (reset.perform used).2).1 = .ok 1 := by
  have hspent : ∀ builder, used.isActive builder = false := by
    intro builder
    cases builder <;> rfl
  have hattained : Attained quotingFront oneFile.start := ⟨oneFile, .refl⟩
  refine ⟨hattained.calls _, hspent, ?_⟩
  rw [(session_after_reset used hspent reportOne).2.1]
  rfl

end Engine

end Diagnostics
