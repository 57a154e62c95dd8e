import Diagnostics.Proofs.Engine.Settled

/-!
# Scopes without a location

A scope that is opened and closed without a location is meant to undo the changes without a location
in between. Whether it does is decided by the count of the policy that is current when the scope is
opened. If somebody holds that policy, the scope is a second holder, every change is made to a copy, and
closing the scope brings back what it saved. If nobody does, which happens once the current policy was
replaced while files were entered, the scope is the only holder, the policy does not count as shared,
and the first change is made to what the scope saved.
-/

set_option autoImplicit false

namespace Diagnostics

open Diagnostics.Action

/-! ## What is to be restored -/

/-- What a policy says, whatever it looks like. -/
structure Settings where
  mapping : Int → Option Mapping
  toggles : Toggles
  extensionBehavior : Severity

/-- What a policy says. -/
def Policy.settings (policy : Policy) : Settings :=
  ⟨policy.get?, policy.toggles, policy.extensionBehavior⟩

/-- What the current policy says. -/
def Engine.currentSettings (e : Engine) : Option Settings :=
  e.policies.current.map fun ref => (e.policies.store.get ref).policy.settings

/-- Sequences in which every scope that is opened is closed and no other one. -/
inductive Balanced : List UnlocatedCall → Prop
  | nil : Balanced []
  | step {call : UnlocatedCall} {rest : List UnlocatedCall} (noPush : call ≠ .call .push)
      (noPop : call ≠ .call .pop) (h : Balanced rest) : Balanced (call :: rest)
  | scope {inner rest : List UnlocatedCall} (h : Balanced inner) (h' : Balanced rest) :
      Balanced (.call .push :: (inner ++ .call .pop :: rest))

/-- The engine after several calls, also if some of them fail. -/
def Engine.after (e : Engine) (calls : List UnlocatedCall) : Engine :=
  calls.foldl (fun e call => (call.perform.perform e).2) e

/-- One call, and then the others. -/
theorem Engine.after_cons (e : Engine) (call : UnlocatedCall) (rest : List UnlocatedCall) :
    e.after (call :: rest) = (call.perform.perform e).2.after rest := rfl

/-- Some calls, and then the others. -/
theorem Engine.after_append (e : Engine) (calls rest : List UnlocatedCall) :
    e.after (calls ++ rest) = (e.after calls).after rest :=
  List.foldl_append ..

/-! ## A policy that a scope saved -/

namespace PolicyMap

variable {base : Nat} {inner outer : List PolicyRef} {map : PolicyMap} {saved ref : PolicyRef}
  {policy : Policy}

/-- A scope saved a policy inside of which further scopes may be open. The policy still says what it
said, and once files are entered somebody else than these scopes holds it, too. -/
structure Guarded (base : Nat) (saved : PolicyRef) (policy : Policy) (inner outer : List PolicyRef)
    (map : PolicyMap) : Prop where
  settled : Settled base (inner ++ saved :: outer) map
  kept : (map.store.get saved).policy = policy
  held : map.files ≠ [] → 0 < map.holders saved + outer.count saved

/-- Whenever the saved policy is current, it counts as shared. -/
theorem Guarded.isShared (h : Guarded base saved policy inner outer map)
    (hcur : map.current = some saved) : (map.store.get saved).isShared = true := by
  have hbase := (h.settled.counts.current saved hcur).1
  have hrefs := h.settled.counts.refs saved hbase
  rw [List.count_append, List.count_cons_self] at hrefs
  have hpos : 0 < map.holders saved + outer.count saved := by
    by_cases hfiles : map.files = []
    · have hfirst : map.first = some saved := (h.settled.tied hfiles).trans hcur
      unfold holders
      rw [if_pos hfirst]
      omega
    · exact h.held hfiles
  unfold SharedPolicy.isShared
  rw [decide_eq_true_eq, hrefs]
  omega

/-- A guarded policy is in the store. -/
theorem Guarded.saved_lt (h : Guarded base saved policy inner outer map) :
    saved < map.store.size :=
  (h.settled.counts.scope_bounds (by simp)).2

/-- Once files are entered, being the current policy counts for nothing. -/
theorem holders_replaceCurrent (hfiles : map.files ≠ []) (ref r : PolicyRef) :
    (map.replaceCurrent ref).holders r = map.holders r := by
  unfold replaceCurrent
  rw [if_neg]
  · rfl
  · simp [hfiles]

/-- A policy stays guarded when another one is made current. -/
theorem Guarded.replaceCurrent (h : Guarded base saved policy inner outer map)
    (href : base ≤ ref ∧ ref < map.store.size) :
    Guarded base saved policy inner outer (map.replaceCurrent ref) where
  settled := h.settled.replaceCurrent href
  kept := by
    rw [policy_replaceCurrent]
    exact h.kept
  held hfiles := by
    rw [replaceCurrent_files] at hfiles
    rw [holders_replaceCurrent hfiles]
    exact h.held hfiles

/-- A policy stays guarded when one is copied. -/
theorem Guarded.copied (h : Guarded base saved policy inner outer map) (ref : PolicyRef) :
    Guarded base saved policy inner outer (map.copied ref) where
  settled := h.settled.copied ref
  kept := by
    rw [← h.kept]
    exact congrArg SharedPolicy.policy (PolicyStore.get_add_of_lt _ h.saved_lt)
  held := h.held

/-- A policy stays guarded when another one is changed. -/
theorem Guarded.changed (h : Guarded base saved policy inner outer map) (hne : saved ≠ ref)
    (f : Policy → Policy) : Guarded base saved policy inner outer (map.changed ref f) where
  settled := h.settled.changed ref f
  kept := by
    rw [← h.kept]
    exact PolicyStore.policy_change_of_ne _ f hne
  held := h.held

/-- A policy stays guarded when a further scope is opened. -/
theorem Guarded.push (h : Guarded base saved policy inner outer map)
    (hcur : map.current = some ref) :
    Guarded base saved policy (ref :: inner) outer { map with store := map.store.retain ref } where
  settled := h.settled.retainScope hcur
  kept := by
    rw [← h.kept]
    exact PolicyStore.policy_retain ..
  held := h.held

/-- A policy stays guarded when a further scope is closed. -/
theorem Guarded.pop (h : Guarded base saved policy (ref :: inner) outer map) :
    Guarded base saved policy inner outer { map with store := map.store.release ref } where
  settled := h.settled.releaseScope
  kept := by
    rw [← h.kept]
    exact PolicyStore.policy_release ..
  held := h.held

end PolicyMap

namespace Engine

variable {base : Nat} {inner outer : List PolicyRef} {saved : PolicyRef} {policy : Policy}
  {e : Engine}

/-- The saved policy is guarded in an engine with the given open scopes. -/
def Guarded (base : Nat) (saved : PolicyRef) (policy : Policy) (inner outer : List PolicyRef)
    (e : Engine) : Prop :=
  e.scopes = inner ++ saved :: outer ∧ PolicyMap.Guarded base saved policy inner outer e.policies

/-- A change without a location gets a policy that is not the saved one. -/
theorem guarded_ownCurrent (h : e.Guarded base saved policy inner outer) :
    ∃ ref e', ownCurrent.perform e = (.ok ref, e') ∧ saved ≠ ref ∧
      e'.Guarded base saved policy inner outer := by
  obtain ⟨hscopes, h⟩ := h
  obtain ⟨cur, hcur⟩ := h.settled.current
  by_cases hs : (e.policies.store.get cur).isShared = true
  · obtain ⟨outlet, hperf⟩ := perform_ownCurrent_shared hcur hs
    refine ⟨_, _, hperf, Nat.ne_of_lt h.saved_lt, hscopes, ?_⟩
    exact (h.copied cur).replaceCurrent (h.settled.copy_bounds cur)
  · refine ⟨_, _, perform_ownCurrent_alone hcur hs, ?_, hscopes, h⟩
    rintro rfl
    exact hs (h.isShared hcur)

/-- A guarded policy is never the one that is edited, since somebody else than the current one holds
it. -/
theorem editable_guarded (base : Nat) (saved : PolicyRef) (policy : Policy)
    (inner outer : List PolicyRef) :
    Editable true none (Guarded base saved policy inner outer) where
  log _ _ h := h
  look e h := by
    obtain ⟨cur, hcur⟩ := h.2.settled.current
    exact endsIn_of_perform (perform_policyAt_none hcur) h
  own e h := by
    obtain ⟨ref, e', hperf, -, h'⟩ := guarded_ownCurrent h
    exact endsIn_of_perform hperf h'
  change h hperf f := by
    obtain ⟨ref, e', hperf', hne, hscopes, h'⟩ := guarded_ownCurrent h
    have heq := hperf.symm.trans hperf'
    cases heq
    exact ⟨hscopes, h'.changed hne f⟩

/-- No call that neither opens nor closes a scope touches the saved policy. -/
theorem guarded_step {call : UnlocatedCall} (noPush : call ≠ .call .push)
    (noPop : call ≠ .call .pop) :
    Keeps true (Guarded base saved policy inner outer) call.perform := by
  have hedit := editable_guarded base saved policy inner outer
  cases call with
  | call c =>
    cases c with
    | change change => exact hedit.perform change
    | push => exact absurd rfl noPush
    | pop => exact absurd rfl noPop
  | groupWarningAsError group enabled => exact hedit.groupWarningAsError group enabled
  | groupErrorAsFatal group enabled => exact hedit.groupErrorAsFatal group enabled

/-- In an engine, opening a scope keeps the policy guarded. -/
theorem guarded_push (h : e.Guarded base saved policy inner outer) :
    ∃ ref, (e.after [.call .push]).Guarded base saved policy (ref :: inner) outer := by
  obtain ⟨hscopes, h⟩ := h
  obtain ⟨cur, hcur⟩ := h.settled.current
  obtain ⟨outlet, hperf⟩ := perform_pushScope hcur none
  refine ⟨cur, ?_⟩
  show Guarded _ _ _ _ _ ((pushScope none).perform e).2
  rw [hperf]
  refine ⟨?_, h.push hcur⟩
  rw [List.cons_append, ← hscopes]

/-- The engine after a scope was closed. -/
theorem after_pop {ref : PolicyRef} {scopes : List PolicyRef} (h : e.scopes = ref :: scopes) :
    ∃ outlet, e.after [.call .pop] = { e with
      policies := { restored e.policies ref with
        store := (restored e.policies ref).store.release ref },
      scopes, outlet } := by
  obtain ⟨outlet, hperf⟩ := perform_popScope_none h
  refine ⟨outlet, ?_⟩
  show ((do let _ ← popScope none : Action Engine Unit).perform e).2 = _
  rw [perform_bind_of_ok hperf]
  rfl

/-- In an engine, closing a further scope keeps the policy guarded. -/
theorem guarded_pop {ref : PolicyRef} (h : e.Guarded base saved policy (ref :: inner) outer) :
    (e.after [.call .pop]).Guarded base saved policy inner outer := by
  obtain ⟨hscopes, h⟩ := h
  obtain ⟨outlet, hafter⟩ := after_pop hscopes
  rw [hafter]
  refine ⟨rfl, ?_⟩
  have hmem : ref ∈ ref :: inner ++ saved :: outer := by simp
  have hbounds := h.settled.counts.scope_bounds hmem
  unfold restored
  split
  · exact (h.replaceCurrent hbounds).pop
  · exact h.pop

/-- Balanced calls do not touch a policy that is guarded. -/
theorem guarded_balanced {calls : List UnlocatedCall} (hb : Balanced calls)
    (h : e.Guarded base saved policy inner outer) :
    (e.after calls).Guarded base saved policy inner outer := by
  induction hb generalizing inner e with
  | nil => exact h
  | step noPush noPop _ ih => exact ih (guarded_step noPush noPop e h).of_total
  | scope _ _ ih ih' =>
    obtain ⟨ref, hpush⟩ := guarded_push h
    rw [after_cons, after_append, after_cons]
    exact ih' (guarded_pop (ih hpush))

/-! ## When a scope undoes what was changed inside -/

/-- A scope undoes all changes inside if somebody holds the policy that was current before. -/
theorem settings_after_scope (h : e.Settled) (hcur : e.policies.current = some saved)
    (hrefs : 0 < (e.policies.store.get saved).refs) {calls : List UnlocatedCall}
    (hb : Balanced calls) :
    (e.after (.call .push :: (calls ++ [.call .pop]))).currentSettings = e.currentSettings := by
  obtain ⟨base, h⟩ := h
  have hbounds := h.counts.current saved hcur
  obtain ⟨outlet, hperf⟩ := perform_pushScope hcur none
  -- The scope is a second holder besides the one that was there, so no change inside is made in place.
  have hpush : (e.after [.call .push]).Guarded base saved (e.policies.store.get saved).policy []
      e.scopes := by
    show Guarded _ _ _ _ _ ((pushScope none).perform e).2
    rw [hperf]
    refine ⟨rfl, h.retainScope hcur, PolicyStore.policy_retain .., fun _ => ?_⟩
    have hcount := h.counts.refs saved hbounds.1
    show 0 < e.policies.holders saved + e.scopes.count saved
    omega
  have hinner := guarded_balanced hb hpush
  obtain ⟨outlet', hpop⟩ := after_pop hinner.1
  rw [after_cons, after_append]
  show ((((e.after [.call .push]).after calls).after [.call .pop])).currentSettings = _
  rw [hpop]
  have hsettings : ((restored ((e.after [.call .push]).after calls).policies saved).store.get
      saved).policy = (e.policies.store.get saved).policy := by
    rw [← hinner.2.kept]
    unfold restored
    split
    · exact PolicyMap.policy_replaceCurrent ..
    · rfl
  have hcurrent : (restored ((e.after [.call .push]).after calls).policies saved).current =
      some saved := by
    unfold restored
    split
    · exact PolicyMap.replaceCurrent_current ..
    · rename_i heq
      exact not_not.mp heq
  unfold currentSettings
  simp only [hcurrent, hcur, Option.map_some, PolicyStore.policy_release, hsettings]

/-- If nobody holds the current policy, a toggle that is switched in a scope stays switched. -/
theorem settings_after_lost_scope (h : e.Settled) (hcur : e.policies.current = some saved)
    (hrefs : (e.policies.store.get saved).refs = 0) {value : Bool}
    (hvalue : value ≠ (e.policies.store.get saved).policy.toggles.ignoreAllWarnings) :
    (e.after (.call .push ::
      ([.call (.change (.toggle .ignoreAllWarnings value))] ++ [.call .pop]))).currentSettings ≠
        e.currentSettings := by
  obtain ⟨base, h⟩ := h
  have hbounds := h.counts.current saved hcur
  obtain ⟨e₁, hpush, hpolicies, hscopes⟩ : ∃ e₁, (pushScope none).perform e = (.ok (), e₁) ∧
      e₁.policies = { e.policies with store := e.policies.store.retain saved } ∧
        e₁.scopes = saved :: e.scopes := by
    obtain ⟨outlet, hpush⟩ := perform_pushScope hcur none
    exact ⟨_, hpush, rfl, rfl⟩
  have hcur₁ : e₁.policies.current = some saved := by
    rw [hpolicies]
    exact hcur
  -- The scope is the only holder, so the change is made to what it saved.
  have halone : ¬(e₁.policies.store.get saved).isShared = true := by
    unfold SharedPolicy.isShared
    rw [hpolicies, PolicyStore.refs_retain hbounds.2, hrefs]
    simp
  have htoggle : e₁.after [.call (.change (.toggle .ignoreAllWarnings value))] = { e₁ with
      policies := e₁.policies.changed saved fun policy =>
        { policy with toggles := { policy.toggles with ignoreAllWarnings := value } } } := by
    show ((ownCurrent >>= _).perform e₁).2 = _
    rw [perform_bind_of_ok (perform_ownCurrent_alone hcur₁ halone)]
    rfl
  obtain ⟨outlet, hpop⟩ := after_pop (e := { e₁ with
    policies := e₁.policies.changed saved fun policy =>
      { policy with toggles := { policy.toggles with ignoreAllWarnings := value } } }) hscopes
  have hstay : restored (e₁.policies.changed saved fun policy =>
      { policy with toggles := { policy.toggles with ignoreAllWarnings := value } }) saved =
        e₁.policies.changed saved fun policy =>
          { policy with toggles := { policy.toggles with ignoreAllWarnings := value } } := by
    unfold restored
    exact if_neg (not_not.mpr hcur₁)
  intro heq
  have hrun : e.after (.call .push ::
      ([.call (.change (.toggle .ignoreAllWarnings value))] ++ [.call .pop])) =
        (e₁.after [.call (.change (.toggle .ignoreAllWarnings value))]).after [.call .pop] := by
    rw [after_cons, after_append]
    show ((((pushScope none).perform e).2).after _).after _ = _
    rw [hpush]
  have hlt : saved < e₁.policies.store.size := by
    rw [hpolicies, PolicyStore.size_retain]
    exact hbounds.2
  rw [hrun, htoggle, hpop, hstay] at heq
  unfold currentSettings PolicyMap.changed at heq
  simp only [hcur₁, hcur, Option.map_some, Option.some.injEq, PolicyStore.policy_release,
    PolicyStore.policy_change_self _ hlt] at heq
  exact hvalue (congrArg (fun s => s.toggles.ignoreAllWarnings) heq)

/-- In a reachable engine, opening a scope, making balanced calls and closing the scope again, all
without a location, brings the current settings back for all such calls exactly if the current policy
has a holder when the scope is opened. -/
theorem scope_undoes_iff {front : FrontEnd} (hfront : front.Makes fun _ => True)
    (h : Reached front e) :
    ∃ cur, e.policies.current = some cur ∧
      ((∀ calls, Balanced calls →
          (e.after (.call .push :: (calls ++ [.call .pop]))).currentSettings = e.currentSettings) ↔
        0 < (e.policies.store.get cur).refs) := by
  have hsettled := settled_of_reached hfront h
  obtain ⟨cur, hcur⟩ := hsettled.elim fun _ h => h.current
  refine ⟨cur, hcur, ?_, ?_⟩
  · intro hall
    apply Nat.pos_of_ne_zero
    intro hrefs
    have hvalue : (!(e.policies.store.get cur).policy.toggles.ignoreAllWarnings) ≠
        (e.policies.store.get cur).policy.toggles.ignoreAllWarnings := by simp
    refine settings_after_lost_scope hsettled hcur hrefs hvalue (hall _ ?_)
    exact .step (by rintro ⟨⟩) (by rintro ⟨⟩) .nil
  · intro hrefs calls hb
    exact settings_after_scope hsettled hcur hrefs hb

/-! ## An engine whose current policy nobody holds -/

/-- A change in the file, and then one without a location in a scope that stays open: the current policy
is a copy that became current while a file was entered. -/
def stray : Engine :=
  [PlainCall.located (.change (.toggle .warningsAsErrors true)) ⟨1, 10⟩, .unlocated (.call .push),
    .unlocated (.call (.change (.toggle .ignoreAllWarnings true)))].foldl
      (fun e call => (call.perform.perform e).2) oneFile.start

/-- The engine with the stray copy is reached. -/
theorem reached_stray : Reached quotingFront stray := by
  have h : Reached quotingFront oneFile.start := .start oneFile
  have h₁ := h.next (.located (.change (.toggle .warningsAsErrors true)) ⟨1, 10⟩) rfl
  have h₂ := h₁.next (.unlocated (.call .push)) rfl
  exact h₂.next (.unlocated (.call (.change (.toggle .ignoreAllWarnings true)))) rfl

/-- The stray copy is current and has no holder, so not every balanced scope is undone. -/
theorem stray_scope_undoes_iff : Reached quotingFront stray ∧
    ∃ cur, stray.policies.current = some cur ∧
      ((∀ calls, Balanced calls →
          (stray.after (.call .push :: (calls ++ [.call .pop]))).currentSettings =
            stray.currentSettings) ↔
        0 < (stray.policies.store.get cur).refs) :=
  ⟨reached_stray, scope_undoes_iff (makes_quotingFront _) reached_stray⟩

/-- Not every reachable engine has its settings back after a scope: here a toggle that is switched in
the scope stays switched. -/
theorem scope_keeps_toggle : ¬∀ (front : FrontEnd) (e : Engine), front.Makes (fun _ => True) →
    Reached front e → ∀ calls, Balanced calls →
      (e.after (.call .push :: (calls ++ [.call .pop]))).currentSettings = e.currentSettings := by
  intro h
  have hsame := h quotingFront stray (makes_quotingFront _) reached_stray
    [.call (.change (.toggle .enableAllWarnings true))]
    (.step (by rintro ⟨⟩) (by rintro ⟨⟩) .nil)
  have htoggle := congrArg (Option.map fun s => s.toggles.enableAllWarnings) hsame
  revert htoggle
  decide

end Engine

end Diagnostics
