import Diagnostics.Proofs.Engine.Behind

/-!
# Reporting behind a past

Reports, emissions and replays on an engine go in lockstep with those on the engine behind a past, if the
front ends on both sides match: they give the same answers, and what they do goes in lockstep too.
-/

set_option autoImplicit false

namespace Diagnostics

open Diagnostics.Action

/-- Two front ends that answer and act in the same way, the one on an engine and the other on that engine
behind a past. -/
structure FrontEnd.Matches (past : Engine) (front front' : FrontEnd) : Prop where
  stringify : ∀ request,
    Lockstep (Engine.IsBehind past) (front.stringify request) (front'.stringify request)
  afterDelivery : ∀ diagnostic,
    Lockstep (Engine.IsBehind past) (front.afterDelivery diagnostic) (front'.afterDelivery diagnostic)

namespace Engine

variable {past : Engine}

/-! ## Staging -/

/-- Both engines queue the diagnostic, or neither does. -/
theorem behind_setDelayed (id : Int) (first second : String) :
    Lockstep (IsBehind past) (setDelayed id first second) (setDelayed id first second) := by
  unfold setDelayed
  apply behind_get_bind
  intro e
  rw [behind_delayed]
  refine lockstep_ite ?_ (lockstep_pure _)
  apply behind_get_bind
  intro e₁
  refine lockstep_bind (lockstep_ofExcept _) fun entry => ?_
  exact lockstep_bind (behind_debug _) fun _ => behind_modify fun _ => rfl

/-- Both engines pass the guard, or refuse in the same words. -/
theorem behind_requireIdle (entry : Entry) (next : Option Int) :
    Lockstep (IsBehind past) (requireIdle entry next) (requireIdle entry next) := by
  unfold requireIdle
  apply behind_get_bind
  intro e
  exact lockstep_ite (lockstep_throw _) (lockstep_pure _)

/-- The new builder counts from the end of the past. -/
theorem behind_report (id : Option Int) (loc : Option Location) :
    Renames (IsBehind past) (past.builders.length + ·) (report id loc) (report id loc) := by
  unfold report
  refine renames_bind_left (behind_requireIdle _ _) fun _ => ?_
  apply behind_get_bind_renamed
  intro e
  refine renames_bind_left (lockstep_ofExcept _) fun _ => ?_
  apply behind_get_bind_renamed
  intro e₁
  have hnext : (e₁.behind past).builders.length = past.builders.length + e₁.builders.length :=
    List.length_append
  rw [hnext]
  refine renames_bind_left (behind_modify fun e₂ => ?_) fun _ => renames_pure _ e₁.builders.length
  simp [behind]

/-- Something is bound to both diagnostics in flight, or to neither. -/
theorem behind_attach (add : ArgumentStore → Except Fault ArgumentStore) :
    Lockstep (IsBehind past) (attach add) (attach add) := by
  unfold attach
  apply behind_get_bind
  intro e
  exact lockstep_bind (lockstep_ofExcept _) fun _ => behind_modify fun _ => rfl

/-- The builder that is used up is the same one, counted from the past on. -/
theorem behind_spend (builder : Nat) :
    Lockstep (IsBehind past) (spend builder) (spend (past.builders.length + builder)) := by
  refine behind_modify fun e => ?_
  simp [behind, List.set_append_right]

/-- A builder is active behind the past exactly if it is active without one. -/
theorem behind_requireActive (builder : Nat) :
    Lockstep (IsBehind past) (requireActive builder)
      (requireActive (past.builders.length + builder)) := by
  unfold requireActive
  apply behind_get_bind
  intro e
  rw [isActive_behind]
  exact lockstep_ite (lockstep_throw _) (lockstep_pure _)

/-- An argument is bound to both diagnostics, or to neither. -/
theorem behind_bindArgument (builder : Nat) (add : ArgumentStore → Except Fault ArgumentStore) :
    Lockstep (IsBehind past) (bindArgument builder add)
      (bindArgument (past.builders.length + builder) add) :=
  lockstep_bind (behind_requireActive builder) fun _ => behind_attach add

/-- A range is bound to both diagnostics, or to neither. -/
theorem behind_bindRange (builder : Nat) (first last : Option Location) :
    Lockstep (IsBehind past) (bindRange builder first last)
      (bindRange (past.builders.length + builder) first last) :=
  lockstep_bind (behind_requireActive builder) fun _ => behind_modify fun _ => rfl

/-- A fix is bound to both diagnostics, or to neither. -/
theorem behind_bindFixIt (builder : Nat) (hint : FixIt) :
    Lockstep (IsBehind past) (bindFixIt builder hint)
      (bindFixIt (past.builders.length + builder) hint) :=
  lockstep_bind (behind_requireActive builder) fun _ =>
    lockstep_ite (behind_modify fun _ => rfl) (lockstep_pure _)

/-- Both diagnostics are given up, or neither is. -/
theorem behind_abandon (builder : Nat) :
    Lockstep (IsBehind past) (abandon builder) (abandon (past.builders.length + builder)) := by
  unfold abandon
  apply behind_get_bind
  intro e
  rw [isActive_behind]
  refine lockstep_ite ?_ (lockstep_pure _)
  exact lockstep_bind (behind_spend builder) fun _ => behind_modify fun _ => rfl

/-- Both engines add the file under the same number. -/
theorem behind_addFile (name text : String) (includedAt : Option Location) :
    Lockstep (IsBehind past) (addFile name text includedAt) (addFile name text includedAt) := by
  unfold addFile
  apply behind_get_bind
  intro e
  exact lockstep_bind (lockstep_ofExcept _) fun _ => behind_modify fun _ => rfl

/-! ## Resolving -/

/-- The suppression policy comes to the same verdict on both. -/
theorem behind_levelToEmit (id : Option Int) (loc : Option Location) :
    Lockstep (IsBehind past) (levelToEmit id loc) (levelToEmit id loc) := by
  unfold levelToEmit
  refine lockstep_bind (behind_levelAt id loc) fun level => ?_
  apply behind_get_bind
  intro e
  refine lockstep_ite (lockstep_pure _) (lockstep_when (behind_modify fun _ => rfl) ?_)
  apply behind_get_bind
  intro e₁
  refine lockstep_ite (lockstep_when (behind_modify fun _ => rfl) ?_) ?_
  · exact lockstep_bind (behind_debug _) fun _ => lockstep_pure _
  refine lockstep_ite (lockstep_pure _) (lockstep_ite (lockstep_pure _) ?_)
  have hfatal : Lockstep (IsBehind past)
      (if level = .fatal then (do
        modify fun e => { e with totals.fatalOccurred := true }
        pure (some level)) else pure (some level))
      (if level = .fatal then (do
        modify fun e => { e with totals.fatalOccurred := true }
        pure (some level)) else pure (some level)) :=
    lockstep_when (behind_modify fun _ => rfl) (lockstep_pure _)
  refine lockstep_ite (lockstep_bind (lockstep_ofExcept _) fun isError => ?_) hfatal
  refine lockstep_when (behind_modify fun _ => rfl) ?_
  refine lockstep_bind (behind_modify fun _ => rfl) fun _ => ?_
  refine lockstep_when (behind_modify fun _ => rfl) ?_
  apply behind_get_bind
  intro e₂
  refine lockstep_ite ?_ hfatal
  refine lockstep_bind (behind_debug _) fun _ => ?_
  exact lockstep_bind (behind_setDelayed _ _ _) fun _ => lockstep_pure _

/-- Resolution comes to the same level on both. -/
theorem behind_resolve (force : Bool) (id : Option Int) (loc : Option Location) :
    Lockstep (IsBehind past) (resolve force id loc) (resolve force id loc) :=
  lockstep_ite (lockstep_bind (behind_levelAt id loc) fun _ => lockstep_pure _)
    (behind_levelToEmit id loc)

/-! ## Delivering -/

variable {front front' : FrontEnd} (hfront : front.Matches past front')

include hfront in
/-- Matching front ends are given the diagnostic in the same way. -/
theorem behind_deliver (diagnostic : StoredDiagnostic) :
    Lockstep (IsBehind past) (deliver front diagnostic) (deliver front' diagnostic) := by
  unfold deliver
  refine lockstep_bind (behind_modify fun e => ?_) fun _ => ?_
  · simp [behind]
  · apply behind_get_bind
    intro e
    refine lockstep_bind (lockstep_onPart _ ?_ ?_) fun _ => hfront.afterDelivery diagnostic
    · rintro e₁ _ rfl
      rfl
    · rintro outlet e₁ _ rfl
      rfl

include hfront in
/-- The delivery is counted on both engines. -/
theorem behind_deliverCounted (diagnostic : StoredDiagnostic) :
    Lockstep (IsBehind past) (deliverCounted front diagnostic) (deliverCounted front' diagnostic) := by
  unfold deliverCounted
  refine lockstep_bind (behind_deliver hfront diagnostic) fun _ => ?_
  apply behind_get_bind
  intro e
  exact lockstep_ite (behind_modify fun _ => rfl) (lockstep_pure _)

include hfront in
/-- Matching front ends render the same message. -/
theorem behind_render (id : Option Int) (loc : Option Location) (level : Severity) :
    Lockstep (IsBehind past) (render front id loc level) (render front' id loc level) := by
  unfold render
  refine lockstep_bind (behind_modify fun _ => rfl) fun _ => ?_
  apply behind_get_bind
  intro e
  refine lockstep_bind (lockstep_ofExcept _) fun entry => ?_
  refine lockstep_bind (Formatter.lockstep_formatValue hfront.stringify _) fun message => ?_
  apply behind_get_bind
  intro e₁
  exact behind_deliverCounted hfront _

include hfront in
/-- One diagnostic is emitted on both engines, or dropped on both. -/
theorem behind_emitOnce (force : Bool) :
    Lockstep (IsBehind past) (emitOnce front force) (emitOnce front' force) := by
  unfold emitOnce
  refine lockstep_ensuring (lockstep_get_bind ?_) ?_
  · rintro e _ rfl
    refine lockstep_bind (behind_modify fun _ => rfl) fun _ => ?_
    refine lockstep_bind (behind_resolve force _ _) fun level => ?_
    cases level with
    | none =>
      apply behind_get_bind
      intro e₁
      refine lockstep_bind (lockstep_ofExcept _) fun entry => ?_
      exact lockstep_bind (behind_debug _) fun _ => lockstep_pure _
    | some level =>
      exact lockstep_bind (behind_render hfront _ _ level) fun _ => lockstep_pure _
  · rintro e _ rfl
    rfl

include hfront in
/-- The delayed diagnostic is emitted on both. -/
theorem behind_emitDelayed (delayed : Delayed) :
    Lockstep (IsBehind past) (emitDelayed front delayed) (emitDelayed front' delayed) := by
  unfold emitDelayed
  refine lockstep_bind (behind_modify fun _ => rfl) fun _ => ?_
  refine lockstep_bind_renamed (behind_report _ _) fun builder => ?_
  refine lockstep_bind (behind_attach _) fun _ => lockstep_bind (behind_attach _) fun _ => ?_
  refine lockstep_bind (behind_spend builder) fun _ => ?_
  exact lockstep_bind (behind_emitOnce hfront false) fun _ => lockstep_pure _

include hfront in
/-- A chain of delayed diagnostics is as long, link by link. -/
theorem behind_flush (bound : Nat) :
    Lockstep (IsBehind past) (flush front bound) (flush front' bound) := by
  induction bound with
  | zero =>
    unfold flush
    apply behind_get_bind
    intro e
    rw [behind_delayed]
    refine lockstep_ite (lockstep_bind (behind_modify fun _ => rfl) fun _ => ?_) (lockstep_pure _)
    exact lockstep_throw _
  | succ bound ih =>
    unfold flush
    apply behind_get_bind
    intro e
    rw [behind_delayed]
    cases e.delayed with
    | none => exact lockstep_pure _
    | some delayed => exact lockstep_bind (behind_emitDelayed hfront delayed) fun _ => ih

include hfront in
/-- An emission without its builder ends in the same way on both. -/
theorem behind_emitDraft (force : Bool) :
    Lockstep (IsBehind past) (emitDraft front force) (emitDraft front' force) := by
  unfold emitDraft
  refine lockstep_bind (behind_emitOnce hfront force) fun delivered => lockstep_ite ?_ ?_
  · exact lockstep_bind (behind_flush hfront chainLimit) fun _ => lockstep_pure _
  · exact lockstep_pure _

include hfront in
/-- An emission ends in the same way on both, its builder counted from the past on. -/
theorem behind_emit (builder : Nat) (force : Bool) :
    Lockstep (IsBehind past) (emit front builder force)
      (emit front' (past.builders.length + builder) force) :=
  lockstep_bind (behind_requireActive builder) fun _ =>
    lockstep_bind (behind_spend builder) fun _ => behind_emitDraft hfront force

include hfront in
/-- A stored diagnostic is replayed on both. -/
theorem behind_replay (diagnostic : StoredDiagnostic) :
    Lockstep (IsBehind past) (replay front diagnostic) (replay front' diagnostic) := by
  unfold replay
  refine lockstep_bind (behind_requireIdle _ _) fun _ => ?_
  refine lockstep_bind (behind_modify fun _ => rfl) fun _ => ?_
  refine lockstep_ensuring (behind_deliverCounted hfront diagnostic) ?_
  rintro e _ rfl
  rfl

end Engine

end Diagnostics
