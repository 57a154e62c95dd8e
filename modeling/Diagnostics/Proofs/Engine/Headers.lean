import Diagnostics.Proofs.Engine.Acceptance
import Diagnostics.Proofs.Engine.Frames
import Diagnostics.Proofs.Engine.Pragmas

/-!
# Headers

The pragmas of a translation unit are those of its top-level file and those of the files that are
included in between, which close the scopes that they open. What is in effect in the top-level file does
not depend on the included files, with one exception: a scope saves the current policy, and behind an
included file that can be the one that the included file changed last. So a run is compared with the run
of the pragmas of the top-level file alone, provided that the top-level file opens its scopes in step,
that is, where the current policy says what is in effect.
-/

set_option autoImplicit false

namespace Diagnostics

open Diagnostics.Action

/-! ## Runs -/

/-- How many scopes included files have open after a call in one of them; they close none but their
own. -/
def LocatedCall.depthAfter? (depth : Nat) : LocatedCall → Option Nat
  | change _ => some depth
  | push => some (depth + 1)
  | pop => if depth = 0 then none else some (depth - 1)

/-- Makes calls at locations, one after the other. -/
def performAll (calls : List (Location × LocatedCall)) : Action Engine Unit :=
  calls.forM fun call => call.2.perform (some call.1)

/-- The calls in a file. -/
def callsIn (file : Int) (calls : List (Location × LocatedCall)) : List (Location × LocatedCall) :=
  calls.filter fun call => call.1.file = file

/-- The level of a diagnostic under a policy, if the catalog knows it. -/
def Policy.judge (policy : Policy) (catalog : Catalog) (silenced : Bool) (id : Option Int) :
    Except Fault Severity := do
  let mapping ← policy.mappingOf catalog id
  let entry ← catalog.entry id
  return policy.level entry mapping silenced

namespace Engine

/-- The current policy says what is in effect at a location. -/
def InStep (e : Engine) (loc : Location) : Prop :=
  ∃ ref, e.policies.current = some ref ∧ e.policyFound loc = .ok (e.policies.policyOf ref)

/-- What an engine answers when it is asked for the level of a diagnostic at a location. -/
def severityFound (e : Engine) (id : Option Int) (loc : Location) : Except Fault Severity :=
  ((effectiveSeverity id (some loc)).perform e).1

end Engine

/-- A run over a translation unit: `HeaderRun engine file calls depth e` leads from a start of the
engine through the calls, those in the file and those in included ones, which have that many scopes
open at the end. -/
inductive HeaderRun (engine : Engine) (file : Int) :
    List (Location × LocatedCall) → Nat → Engine → Prop
  | start : HeaderRun engine file [] 0 engine.start
  | own {calls : List (Location × LocatedCall)} {e e' : Engine} (offset : Int) (call : LocatedCall)
      (run : HeaderRun engine file calls 0 e) (pragma : call.IsPragma) (nonneg : 0 ≤ offset)
      (order : ∀ c ∈ calls, c.1.file = file → c.1.offset ≤ offset)
      (inStep : call = .push → e.InStep ⟨file, offset⟩)
      (ok : (call.perform (some ⟨file, offset⟩)).perform e = (.ok (), e')) :
      HeaderRun engine file (calls ++ [(⟨file, offset⟩, call)]) 0 e'
  | header {calls : List (Location × LocatedCall)} {depth depth' : Nat} {e e' : Engine}
      (loc : Location) (call : LocatedCall) (run : HeaderRun engine file calls depth e)
      (other : loc.file ≠ file)
      (known : ∃ source, FileTable.lookup engine.files.newestFirst loc.file = some source)
      (nonneg : 0 ≤ loc.offset) (nests : call.depthAfter? depth = some depth')
      (ok : (call.perform (some loc)).perform e = (.ok (), e')) :
      HeaderRun engine file (calls ++ [(loc, call)]) depth' e'

namespace Engine

variable {engine e e' e'' : Engine} {file offset bound : Int} {history : Int → Policy}
  {saved : List Policy} {depth : Nat} {source : SourceFile} {loc : Location} {ref : PolicyRef}

/-! ## What stays in place -/

/-- Editing a private policy moves nothing, if it succeeds. -/
theorem editable_unmoved (e : Engine) (loc : Option Location) : Editable false loc (Unmoved e) where
  log _ _ h := h.trans ⟨rfl, rfl, rfl, rfl⟩
  look := keeps_of_ok fun _ _ _ h hperf => h.trans (policyAt_unmoved hperf).1
  own := keeps_of_ok fun _ _ _ h hperf => h.trans (ownPolicy_unmoved hperf).1
  change h hperf _ := (h.trans (ownPolicy_unmoved hperf).1).trans ⟨rfl, rfl, rfl, rfl⟩

/-- A call at a location moves nothing, if it succeeds. -/
theorem located_unmoved {call : LocatedCall} {loc : Option Location}
    (hperf : (call.perform loc).perform e = (.ok (), e')) : Unmoved e e' := by
  cases call with
  | change change =>
    exact ((editable_unmoved e loc).perform change e ⟨rfl, rfl, rfl, rfl⟩).of_ok hperf
  | push => exact pushScope_unmoved hperf
  | pop =>
    obtain ⟨closed, e₁, hpop, hdone⟩ := perform_bind_eq_ok.mp hperf
    cases hdone
    exact popScope_unmoved hpop

/-! ## The file among others -/

/-- The policies of one file follow a history and the saved policies of a machine, while included files
have scopes open on top of those of the file. A policy that may become current without an append says
what the end of the history says. -/
structure Tracks (file bound : Int) (history : Int → Policy) (saved : List Policy) (depth : Nat)
    (e : Engine) : Prop where
  orderly : e.Orderly
  values : ∀ x, 0 ≤ x → e.valueAt? file x = some (history x)
  settled : ∀ x, bound ≤ x → history x = history bound
  nested : depth ≤ e.scopes.length
  outer : (e.scopes.drop depth).map e.policies.policyOf = saved
  agrees : ∀ ref, e.policies.current = some ref ∨ ref ∈ e.scopes.take depth →
    ref ∈ e.scopes.drop depth → e.policies.policyOf ref = history bound

/-! ## Steps -/

/-- A history is tracked at later offsets as well. -/
theorem Tracks.mono (h : Tracks file bound history saved depth e) (hle : bound ≤ offset) :
    Tracks file offset history saved depth e :=
  { h with
    settled := fun x hx => (h.settled x (Int.le_trans hle hx)).trans (h.settled offset hle).symm
    agrees := fun ref hcur hmem => (h.agrees ref hcur hmem).trans (h.settled offset hle).symm }

/-- What is in effect does not depend on counts, scopes and the log. -/
theorem valueAt?_setStore {store : PolicyStore} {scopes : List PolicyRef} {outlet : Outlet}
    (hpol : ∀ r, (store.get r).policy = e.policies.policyOf r) (id x : Int) :
    Engine.valueAt? { e with policies := { e.policies with store }, scopes, outlet } id x =
      e.valueAt? id x :=
  valueAt?_congr (PolicyMap.inEffect?_congr (fun _ => rfl) rfl) fun r _ => hpol r

/-- How a saved policy becomes current again at a location: it is current, or it is appended there. -/
theorem Orderly.restored (h : e.Orderly) (hw : FileTable.WellPlaced e.files.newestFirst)
    (hservice : e.locations = some .files)
    (hperf : (restore ref (some loc)).perform e = (.ok (), e')) :
    (e.policies.current = some ref ∧ e' = e) ∨
      ∃ map, PolicyMap.Appended e.files.newestFirst loc.file loc.offset ref e.policies map ∧
        e' = { e with policies := map } := by
  obtain ⟨base, h⟩ := h
  rcases restore_ok hperf with hsame | ⟨-, ⟨l, service, map, hl, hservice', happend, rfl⟩ |
    ⟨hnone | hnone, -⟩⟩
  · exact .inl hsame
  · cases hl
    obtain rfl : service = .files := by
      rw [hservice, Option.some.injEq] at hservice'
      exact hservice'.symm
    obtain ⟨first, hf⟩ := h.initial
    exact .inr ⟨map, PolicyMap.appended_of_ok hw h.formed hf happend, rfl⟩
  · cases hnone
  · rw [hservice] at hnone
    cases hnone

/-- A change is in effect from its offset on, in its own file. -/
theorem Appended.valueAt?_self {map : PolicyMap} {x : Int}
    (ha : PolicyMap.Appended e.files.newestFirst file offset ref e.policies map) (hx : 0 ≤ x) :
    Engine.valueAt? { e with policies := map } file x =
      if offset ≤ x then some (e.policies.policyOf ref) else e.valueAt? file x := by
  have hpol : map.policyOf = e.policies.policyOf := funext ha.policy
  unfold Engine.valueAt? Engine.inEffect?
  dsimp only
  rw [ha.inEffect? x hx, hpol]
  split <;> rfl

/-- Closing a scope at a location makes what it saved current again, and what is in effect is only
different by an append, if at all. -/
theorem Orderly.closed (h : e.Orderly) (hw : FileTable.WellPlaced e.files.newestFirst)
    (hservice : e.locations = some .files) {outer : List PolicyRef} (hscopes : e.scopes = ref :: outer)
    {closed : Bool} (hperf : (popScope (some loc)).perform e = (.ok closed, e')) :
    e'.scopes = outer ∧ e'.policies.current = some ref ∧
      (∀ r, e'.policies.policyOf r = e.policies.policyOf r) ∧
        ((e.policies.current = some ref ∧ ∀ id x, e'.valueAt? id x = e.valueAt? id x) ∨
          ∃ map, PolicyMap.Appended e.files.newestFirst loc.file loc.offset ref e.policies map ∧
            ∀ id x, e'.valueAt? id x = Engine.valueAt? { e with policies := map } id x) := by
  rcases popScope_ok hperf with ⟨hnil, -⟩ | ⟨ref', outer', e₁, outlet, htop, hrestore, rfl⟩
  · rw [hnil] at hscopes
    cases hscopes
  rw [hscopes, List.cons.injEq] at htop
  obtain ⟨rfl, rfl⟩ := htop
  have hpol : ∀ r, ((e₁.policies.store.release ref).get r).policy = e₁.policies.policyOf r :=
    fun r => PolicyStore.policy_release ..
  rcases h.restored hw hservice hrestore with ⟨hcur, rfl⟩ | ⟨map, ha, rfl⟩
  · exact ⟨rfl, hcur, hpol, .inl ⟨hcur, valueAt?_setStore hpol⟩⟩
  · exact ⟨rfl, ha.current, fun r => (hpol r).trans (ha.policy r), .inr ⟨map, ha, valueAt?_setStore hpol⟩⟩

section File

variable (hw : FileTable.WellPlaced e.files.newestFirst) (hservice : e.locations = some .files)
  (hs : FileTable.lookup e.files.newestFirst file = some source)

include hw hservice hs in
/-- A change in the file amends the history. -/
theorem Tracks.change (h : Tracks file offset history saved 0 e) (ho : 0 ≤ offset) {change : Change}
    (hperf : (change.perform (some ⟨file, offset⟩)).perform e = (.ok (), e')) :
    Tracks file offset
      (PolicyMap.amended history offset (change.apply e.catalog true (history offset))) saved 0 e' := by
  have hr := h.orderly.reworked_of_change hw hservice hs ho (h.values offset ho) hperf
  generalize change.apply e.catalog true (history offset) = value at hr ⊢
  refine ⟨hr.orderly, fun x hx => ?_, fun x hx => ?_, Nat.zero_le _, ?_, fun ref hcur hmem => ?_⟩
  · unfold PolicyMap.amended
    by_cases hx' : offset ≤ x
    · rw [if_pos hx']
      rcases hr.behind with hsame | hall
      · -- Nothing is different anywhere, so the change made nothing of the value.
        have hvalue := hsame offset ho
        rw [hr.here, h.values offset ho] at hvalue
        rw [hsame x hx, h.values x hx, h.settled x hx', hvalue]
      · exact hall x hx'
    · rw [if_neg hx', hr.before x hx (by omega)]
      exact h.values x hx
  · unfold PolicyMap.amended
    rw [if_pos hx, if_pos (Int.le_refl _)]
  · rw [← h.outer, hr.scopes]
    exact List.map_congr_left fun r hmem => hr.saved r (List.mem_of_mem_drop hmem)
  · rw [PolicyMap.amended_at]
    rw [hr.scopes] at hcur hmem
    rcases hr.current with ⟨hsame, hvalue⟩ | ⟨ref', hcur', hnew⟩
    · rw [hsame] at hcur
      rw [hr.saved ref (List.mem_of_mem_drop hmem), h.agrees ref hcur hmem]
      rw [hr.here, h.values offset ho, Option.some.injEq] at hvalue
      exact hvalue.symm
    · rcases hcur with hcur | hnone
      · rw [hcur', Option.some.injEq] at hcur
        subst hcur
        exact absurd (List.mem_of_mem_drop hmem) hnew
      · rw [List.take_zero] at hnone
        cases hnone

include hw hservice hs in
/-- A change in another file changes nothing in this one. -/
theorem Tracks.changeElsewhere (h : Tracks file bound history saved depth e)
    (htop : source.includedAt = none) (hne : loc.file ≠ file) (hx : 0 ≤ loc.offset)
    (hknown : ∃ source, FileTable.lookup e.files.newestFirst loc.file = some source)
    {change : Change} (hperf : (change.perform (some loc)).perform e = (.ok (), e')) :
    Tracks file bound history saved depth e' := by
  obtain ⟨other, hother⟩ := hknown
  obtain ⟨policy, -, hvalue⟩ := h.orderly.policyFound hw hservice hother hx
  have hr := h.orderly.reworked_of_change hw hservice hother hx hvalue hperf
  refine ⟨hr.orderly, fun x hx => ?_, h.settled, ?_, ?_, fun ref hcur hmem => ?_⟩
  · rw [hr.others file source hne.symm hs (.inr htop) x hx]
    exact h.values x hx
  · rw [hr.scopes]
    exact h.nested
  · rw [← h.outer, hr.scopes]
    exact List.map_congr_left fun r hmem => hr.saved r (List.mem_of_mem_drop hmem)
  · rw [hr.scopes] at hcur hmem
    rw [hr.saved ref (List.mem_of_mem_drop hmem)]
    refine h.agrees ref (hcur.imp_left fun hcur => ?_) hmem
    rcases hr.current with ⟨hsame, -⟩ | ⟨ref', hcur', hnew⟩
    · rw [← hsame]
      exact hcur
    · rw [hcur', Option.some.injEq] at hcur
      subst hcur
      exact absurd (List.mem_of_mem_drop hmem) hnew

include hw hservice hs in
/-- A scope that the file opens in step saves the end of the history. -/
theorem Tracks.push (h : Tracks file offset history saved 0 e) (ho : 0 ≤ offset)
    (hstep : e.InStep ⟨file, offset⟩) (hperf : (pushScope (some loc)).perform e = (.ok (), e')) :
    Tracks file offset history (history offset :: saved) 0 e' := by
  have horderly := h.orderly.of_pushScope hperf
  obtain ⟨cur, outlet, hcur, rfl⟩ := pushScope_ok hperf
  have hpol : ∀ r, ((e.policies.store.retain cur).get r).policy = e.policies.policyOf r :=
    fun r => PolicyStore.policy_retain ..
  have hsaved : e.policies.policyOf cur = history offset := by
    obtain ⟨ref, href, hfound⟩ := hstep
    rw [hcur, Option.some.injEq] at href
    subst href
    obtain ⟨policy, hpolicy, hvalue⟩ := h.orderly.policyFound hw hservice hs ho
    rw [hfound, Except.ok.injEq] at hpolicy
    rw [h.values offset ho, Option.some.injEq] at hvalue
    rw [hpolicy, hvalue]
  refine ⟨horderly, fun x hx => ?_, h.settled, Nat.zero_le _, ?_, fun ref hold _ => ?_⟩
  · rw [valueAt?_setStore hpol]
    exact h.values x hx
  · rw [← h.outer]
    exact List.cons_eq_cons.mpr ⟨(hpol cur).trans hsaved, List.map_congr_left fun r _ => hpol r⟩
  · rcases hold with hold | hnone
    · obtain rfl : cur = ref := Option.some.inj (hcur.symm.trans hold)
      exact (hpol cur).trans hsaved
    · cases hnone

/-- Included files may open scopes at any time. -/
theorem Tracks.pushElsewhere (h : Tracks file bound history saved depth e)
    (hperf : (pushScope (some loc)).perform e = (.ok (), e')) :
    Tracks file bound history saved (depth + 1) e' := by
  have horderly := h.orderly.of_pushScope hperf
  obtain ⟨cur, outlet, hcur, rfl⟩ := pushScope_ok hperf
  have hpol : ∀ r, ((e.policies.store.retain cur).get r).policy = e.policies.policyOf r :=
    fun r => PolicyStore.policy_retain ..
  refine ⟨horderly, fun x hx => ?_, h.settled, Nat.succ_le_succ h.nested, ?_, fun ref hold hmem => ?_⟩
  · rw [valueAt?_setStore hpol]
    exact h.values x hx
  · rw [← h.outer]
    exact List.map_congr_left fun r _ => hpol r
  · rw [List.drop_succ_cons] at hmem
    refine (hpol ref).trans (h.agrees ref ?_ hmem)
    rcases hold with hold | hold
    · exact .inl hold
    · rw [List.take_succ_cons, List.mem_cons] at hold
      rcases hold with rfl | hold
      · exact .inl hcur
      · exact .inr hold

include hw hservice in
/-- A scope that the file closes amends the history with what it saved. -/
theorem Tracks.pop {scope : Policy} (h : Tracks file offset history (scope :: saved) 0 e)
    {closed : Bool} (hperf : (popScope (some ⟨file, offset⟩)).perform e = (.ok closed, e')) :
    Tracks file offset (PolicyMap.amended history offset scope) saved 0 e' := by
  have horderly := h.orderly.of_popScope hw hperf
  have houter := h.outer
  rw [List.drop_zero] at houter
  cases hscopes : e.scopes with
  | nil =>
    rw [hscopes] at houter
    cases houter
  | cons ref outer =>
    rw [hscopes, List.map_cons, List.cons.injEq] at houter
    obtain ⟨hscope, hrest⟩ := houter
    obtain ⟨hscopes', hcur, hpol, hclosed⟩ := h.orderly.closed hw hservice hscopes hperf
    refine ⟨horderly, fun x hx => ?_, fun x hx => ?_, Nat.zero_le _, ?_, fun r hr _ => ?_⟩
    · unfold PolicyMap.amended
      rcases hclosed with ⟨hsame, hvalue⟩ | ⟨map, ha, hvalue⟩
      · -- The file went on with the saved policy, so it is at the end of the history already.
        have hmem : ref ∈ e.scopes.drop 0 := by
          rw [hscopes]
          exact List.mem_cons_self
        rw [hvalue, h.values x hx]
        split
        · rename_i hx'
          rw [h.settled x hx', ← h.agrees ref (.inl hsame) hmem, hscope]
        · rfl
      · rw [hvalue, Appended.valueAt?_self ha hx, hscope, h.values x hx]
        split <;> rfl
    · unfold PolicyMap.amended
      rw [if_pos hx, if_pos (Int.le_refl _)]
    · rw [hscopes', List.drop_zero, ← hrest]
      exact List.map_congr_left fun r _ => hpol r
    · rw [PolicyMap.amended_at]
      rcases hr with hr | hnone
      · obtain rfl : ref = r := Option.some.inj (hcur.symm.trans hr)
        exact (hpol ref).trans hscope
      · cases hnone

include hw hservice hs in
/-- A scope that an included file closes is its own. -/
theorem Tracks.popElsewhere (h : Tracks file bound history saved (depth + 1) e)
    (htop : source.includedAt = none) (hne : loc.file ≠ file) {closed : Bool}
    (hperf : (popScope (some loc)).perform e = (.ok closed, e')) :
    Tracks file bound history saved depth e' := by
  have horderly := h.orderly.of_popScope hw hperf
  have hnested := h.nested
  cases hscopes : e.scopes with
  | nil =>
    rw [hscopes] at hnested
    cases hnested
  | cons ref outer =>
    have houter := h.outer
    have hagrees := h.agrees
    rw [hscopes] at hnested houter hagrees
    rw [List.drop_succ_cons] at houter
    simp only [List.take_succ_cons, List.drop_succ_cons, List.mem_cons] at hagrees
    obtain ⟨hscopes', hcur, hpol, hclosed⟩ := h.orderly.closed hw hservice hscopes hperf
    refine ⟨horderly, fun x hx => ?_, h.settled, ?_, ?_, fun r hr hmem => ?_⟩
    · rw [← h.values x hx]
      rcases hclosed with ⟨-, hvalue⟩ | ⟨map, ha, hvalue⟩
      · exact hvalue file x
      · rw [hvalue]
        exact valueAt?_congr (ha.others file source hne.symm hs (.inr htop) x hx) fun r _ => ha.policy r
    · rw [hscopes']
      exact Nat.le_of_succ_le_succ hnested
    · rw [hscopes', ← houter]
      exact List.map_congr_left fun r _ => hpol r
    · rw [hscopes'] at hr hmem
      refine (hpol r).trans (hagrees r (.inr ?_) hmem)
      exact hr.imp_left fun hr => Option.some.inj (hr.symm.trans hcur)

include hw hservice hs in
/-- A pragma of the file makes of the history what the machine makes of it. -/
theorem Tracks.located (h : Tracks file bound history saved 0 e) (hle : bound ≤ offset)
    (ho : 0 ≤ offset) {call : LocatedCall} (hstep : call = .push → e.InStep ⟨file, offset⟩)
    (hperf : (call.perform (some ⟨file, offset⟩)).perform e = (.ok (), e')) :
    Tracks file offset (PolicyMap.amended history offset
        (Machine.call e.catalog true ⟨history offset, saved⟩ call).value)
      (Machine.call e.catalog true ⟨history offset, saved⟩ call).saved 0 e' := by
  have h' := h.mono hle
  have hsame : PolicyMap.amended history offset (history offset) = history := by
    funext x
    unfold PolicyMap.amended
    split
    · rename_i hx
      exact (h'.settled x hx).symm
    · rfl
  cases call with
  | change change => exact h'.change hw hservice hs ho hperf
  | push =>
    have hpush := h'.push hw hservice hs ho (hstep rfl) hperf
    rw [← hsame] at hpush
    rw [PolicyMap.amended_at] at hpush
    exact hpush
  | pop =>
    obtain ⟨closed, e₁, hpop, hdone⟩ := perform_bind_eq_ok.mp hperf
    cases hdone
    -- Without a scope of the file's own there is nothing to close.
    cases hsaved : saved with
    | nil =>
      have houter := h'.outer
      rw [hsaved, List.drop_zero, List.map_eq_nil_iff] at houter
      obtain ⟨outlet, hnone⟩ := perform_popScope_nil houter (some ⟨file, offset⟩)
      rw [hnone] at hpop
      cases hpop
      rw [hsaved] at h'
      show Tracks file offset (PolicyMap.amended history offset (history offset)) [] 0 _
      rw [hsame]
      exact ⟨h'.orderly, h'.values, h'.settled, h'.nested, h'.outer, h'.agrees⟩
    | cons scope rest =>
      rw [hsaved] at h'
      exact h'.pop hw hservice hpop

include hw hservice hs in
/-- A call in an included file does not matter for the file. -/
theorem Tracks.elsewhere {depth' : Nat} (h : Tracks file bound history saved depth e)
    (htop : source.includedAt = none) (hne : loc.file ≠ file) (hx : 0 ≤ loc.offset)
    (hknown : ∃ source, FileTable.lookup e.files.newestFirst loc.file = some source)
    {call : LocatedCall} (hdepth : call.depthAfter? depth = some depth')
    (hperf : (call.perform (some loc)).perform e = (.ok (), e')) :
    Tracks file bound history saved depth' e' := by
  cases call with
  | change change =>
    obtain rfl : depth = depth' := Option.some.inj hdepth
    exact h.changeElsewhere hw hservice hs htop hne hx hknown hperf
  | push =>
    obtain rfl : depth + 1 = depth' := Option.some.inj hdepth
    exact h.pushElsewhere hperf
  | pop =>
    obtain ⟨closed, e₁, hpop, hdone⟩ := perform_bind_eq_ok.mp hperf
    cases hdone
    have hdepth : (if depth = 0 then none else some (depth - 1)) = some depth' := hdepth
    split at hdepth
    · cases hdepth
    · obtain rfl : depth = depth' + 1 := by
        have := Option.some.inj hdepth
        omega
      exact h.popElsewhere hw hservice hs htop hne hpop

end File

/-! ## Runs -/

section Run

variable {calls : List (Location × LocatedCall)} (hw : FileTable.WellPlaced engine.files.newestFirst)
  (hservice : engine.locations = some .files)
  (hs : FileTable.lookup engine.files.newestFirst file = some source)
  (htop : source.includedAt = none)

include hw hservice hs htop in
/-- From the start on, the history is that of the initial policy. -/
theorem tracks_start : Tracks file 0 (fun _ => initialPolicy engine.context) [] 0 engine.start := by
  obtain ⟨hfollows, hnil⟩ := preset_start hservice hs htop
  obtain ⟨ref, hfirst, hcur, -, hpol⟩ := Preset.initial ⟨hfollows, hnil⟩
  refine ⟨orderly_reset engine, fun x hx => ?_, fun _ _ => rfl, Nat.le_refl _, rfl, fun r _ hmem => ?_⟩
  · have hfound : engine.start.inEffect? file x = engine.start.policies.first :=
      PolicyMap.inEffect?_of_nil hw hnil hs
    unfold valueAt?
    rw [hfound, hfirst, Option.map_some, hpol]
  · cases hmem

/-- A further call is one of its own file only. -/
theorem callsIn_append (file : Int) (calls : List (Location × LocatedCall))
    (call : Location × LocatedCall) :
    callsIn file (calls ++ [call]) =
      callsIn file calls ++ if call.1.file = file then [call] else [] := by
  unfold callsIn
  rw [List.filter_append]
  by_cases hfile : call.1.file = file <;> simp [hfile]

/-- Several calls, and then one more. -/
theorem performAll_append {call : Location × LocatedCall}
    (h : (performAll calls).perform e = (.ok (), e'))
    (hcall : (call.2.perform (some call.1)).perform e' = (.ok (), e'')) :
    (performAll (calls ++ [call])).perform e = (.ok (), e'') := by
  induction calls generalizing e with
  | nil =>
    cases h
    exact (perform_bind_of_ok hcall).trans rfl
  | cons first rest ih =>
    obtain ⟨_, e₁, hfirst, hrest⟩ := perform_bind_eq_ok.mp h
    exact (perform_bind_of_ok hfirst).trans (ih hrest)

/-- A run makes its calls one after the other. -/
theorem performAll_of_run (h : HeaderRun engine file calls depth e) :
    (performAll calls).perform engine.start = (.ok (), e) := by
  induction h with
  | start => rfl
  | own offset call _ _ _ _ _ ok ih => exact performAll_append ih ok
  | header loc call _ _ _ _ _ ok ih => exact performAll_append ih ok

include hw hservice hs htop in
/-- The run of a translation unit and that of the pragmas of its top-level file alone, none of which
fails, have the same history of that file. -/
theorem exists_alone (h : HeaderRun engine file calls depth e) :
    ∃ bound history saved alone, 0 ≤ bound ∧
      (∀ x, 0 ≤ x → (∀ c ∈ calls, c.1.file = file → c.1.offset ≤ x) → bound ≤ x) ∧
      Unmoved engine.start e ∧ Tracks file bound history saved depth e ∧
      (performAll (callsIn file calls)).perform engine.start = (.ok (), alone) ∧
      Unmoved engine.start alone ∧ Follows engine.catalog file bound history saved alone := by
  induction h with
  | start =>
    exact ⟨0, _, [], engine.start, Int.le_refl _, fun x hx _ => hx, ⟨rfl, rfl, rfl, rfl⟩,
      tracks_start hw hservice hs htop, rfl, ⟨rfl, rfl, rfl, rfl⟩, (preset_start hservice hs htop).1⟩
  | @own calls e e' offset call run pragma nonneg order inStep ok ih =>
    obtain ⟨bound, history, saved, alone, -, hle, hmoved, htracks, hall, hmoved₂, hfollows⟩ := ih
    obtain ⟨hw', hservice', hs'⟩ := hmoved.site hw hservice hs
    have hcatalog : e.catalog = engine.catalog := hmoved.catalog
    have hbound := hle offset nonneg order
    have hstep := htracks.located hw' hservice' hs' hbound nonneg inStep ok
    rw [hcatalog] at hstep
    -- The call is accepted without the included files as well, and does the same then.
    have hend : Follows engine.catalog file offset history saved alone :=
      { hfollows with marks := hfollows.marks.mono hbound }
    have hpermitted := isPermitted_of_perform ok
    rw [hcatalog] at hpermitted
    obtain ⟨alone', hok⟩ := hend.exists_pragma nonneg pragma hpermitted
    refine ⟨offset, _, _, alone', nonneg, fun x _ hx => hx (⟨file, offset⟩, call) (by simp) rfl,
      hmoved.trans (located_unmoved ok), hstep, ?_, hmoved₂.trans (located_unmoved hok),
      hfollows.located (m := ⟨history offset, saved⟩) hbound nonneg rfl hok⟩
    rw [callsIn_append, if_pos rfl]
    exact performAll_append hall hok
  | @header calls depth depth' e e' loc call run other known nonneg nests ok ih =>
    obtain ⟨bound, history, saved, alone, hb, hle, hmoved, htracks, hall, hmoved₂, hfollows⟩ := ih
    obtain ⟨hw', hservice', hs'⟩ := hmoved.site hw hservice hs
    have hknown : ∃ source, FileTable.lookup e.files.newestFirst loc.file = some source := by
      rw [hmoved.files]
      exact known
    have hstep := htracks.elsewhere hw' hservice' hs' htop other nonneg hknown nests ok
    refine ⟨bound, history, saved, alone, hb, fun x hx hall => hle x hx fun c hc => ?_,
      hmoved.trans (located_unmoved ok), hstep, ?_, hmoved₂, hfollows⟩
    · exact hall c (List.mem_append_left _ hc)
    · rw [callsIn_append, if_neg other, List.append_nil]
      exact hall

end Run

/-! ## Severities -/

/-- The level that is found is that under the policy that is found. -/
theorem severityFound_of_policyFound {policy : Policy} (h : e.policyFound loc = .ok policy)
    (id : Option Int) :
    e.severityFound id loc = policy.judge e.catalog (0 < e.extensionsSilenced) id := by
  unfold policyFound at h
  rcases hperf : (policyAt (some loc) >>= readPolicy).perform e with ⟨found, e'⟩
  rw [hperf] at h
  dsimp only at h
  subst h
  obtain ⟨ref, e₁, hlook, hread⟩ := perform_bind_eq_ok.mp hperf
  obtain ⟨hmoved, -⟩ := policyAt_unmoved hlook
  rw [perform_readPolicy, Prod.mk.injEq, Except.ok.injEq] at hread
  obtain ⟨rfl, rfl⟩ := hread
  unfold severityFound effectiveSeverity Policy.judge
  rw [perform_bind_of_ok hlook, perform_bind_of_ok (perform_readPolicy ref e₁), perform_get_bind,
    ← hmoved.catalog, ← hmoved.silenced]
  cases (e₁.policies.store.get ref).policy.mappingOf e₁.catalog id with
  | error fault => rfl
  | ok mapping => cases e₁.catalog.entry id <;> rfl

/-- If the top-level file of a translation unit opens its scopes in step, the pragmas of the included
files do not matter for it: without them no call fails, and every diagnostic has the same level at every
location of the file. -/
theorem severity_without_headers {calls : List (Location × LocatedCall)}
    (hw : FileTable.WellPlaced engine.files.newestFirst) (hservice : engine.locations = some .files)
    (hs : FileTable.lookup engine.files.newestFirst file = some source)
    (htop : source.includedAt = none) (h : HeaderRun engine file calls depth e) :
    (performAll calls).perform engine.start = (.ok (), e) ∧
      ∃ alone, (performAll (callsIn file calls)).perform engine.start = (.ok (), alone) ∧
        ∀ id x, 0 ≤ x → e.severityFound id ⟨file, x⟩ = alone.severityFound id ⟨file, x⟩ := by
  obtain ⟨bound, history, saved, alone, -, -, hmoved, htracks, hall, hmoved₂, hfollows⟩ :=
    exists_alone hw hservice hs htop h
  refine ⟨performAll_of_run h, alone, hall, fun id x hx => ?_⟩
  have hfound : e.policyFound ⟨file, x⟩ = .ok (history x) := by
    obtain ⟨hw', hservice', hs'⟩ := hmoved.site hw hservice hs
    obtain ⟨policy, hpolicy, hvalue⟩ := htracks.orderly.policyFound hw' hservice' hs' hx
    rw [htracks.values x hx, Option.some.injEq] at hvalue
    rw [hpolicy, hvalue]
  have hfound₂ : alone.policyFound ⟨file, x⟩ = .ok (history x) := by
    obtain ⟨found, hperf, hsome⟩ := hfollows.perform_policyAt x
    obtain ⟨ref, rfl, hpol⟩ := hsome hx
    unfold policyFound
    rw [perform_bind_of_ok hperf, perform_readPolicy, ← hpol]
    rfl
  rw [severityFound_of_policyFound hfound, severityFound_of_policyFound hfound₂, hmoved.catalog,
    hmoved₂.catalog, hmoved.silenced, hmoved₂.silenced]

/-! ## Scopes around headers and behind them -/

/-- A scope of the top-level file is open while the included file maps a diagnostic. -/
def aroundHeader : List (Location × LocatedCall) :=
  [(⟨1, 5⟩, .push), (⟨2, 3⟩, .change (.severity 1 .error)), (⟨1, 20⟩, .pop)]

/-- The calls around the header are a run. -/
theorem headerRun_aroundHeader : ∃ e, HeaderRun includer 1 aroundHeader 0 e := by
  have h₀ : HeaderRun includer 1 [] 0 includer.start := .start
  have h₁ := h₀.own 5 .push trivial (by decide) (by simp) (fun _ => ⟨_, rfl, rfl⟩) rfl
  have h₂ := h₁.header ⟨2, 3⟩ (.change (.severity 1 .error)) (by decide) ⟨_, rfl⟩ (by decide) rfl rfl
  exact ⟨_, h₂.own 20 .pop trivial (by decide) (by simp) nofun rfl⟩

/-- The included file does not matter then. -/
theorem severity_aroundHeader : FileTable.WellPlaced includer.files.newestFirst ∧
    includer.locations = some .files ∧ ∃ e, HeaderRun includer 1 aroundHeader 0 e ∧
      (performAll aroundHeader).perform includer.start = (.ok (), e) ∧
        ∃ alone, (performAll (callsIn 1 aroundHeader)).perform includer.start = (.ok (), alone) ∧
          ∀ id x, 0 ≤ x → e.severityFound id ⟨1, x⟩ = alone.severityFound id ⟨1, x⟩ := by
  obtain ⟨e, h⟩ := headerRun_aroundHeader
  exact ⟨wellPlaced_includer, rfl, e, h, severity_without_headers wellPlaced_includer rfl rfl rfl h⟩

/-- The included file maps a diagnostic, and behind it the top-level file opens a scope, switches a
toggle and closes the scope. -/
def behindIncluded : List (Location × LocatedCall) :=
  [(⟨2, 3⟩, .change (.severity 1 .error)), (⟨1, 20⟩, .push),
    (⟨1, 25⟩, .change (.toggle .warningsAsErrors true)), (⟨1, 30⟩, .pop)]

/-- The scope brings what the included file asked for into the top-level file. -/
theorem header_leaks : ∃ e alone,
    (performAll behindIncluded).perform includer.start = (.ok (), e) ∧
      (performAll (callsIn 1 behindIncluded)).perform includer.start = (.ok (), alone) ∧
        e.severityFound (some 1) ⟨1, 40⟩ = .ok .error ∧
          alone.severityFound (some 1) ⟨1, 40⟩ = .ok .fatal :=
  ⟨_, _, rfl, rfl, rfl, rfl⟩

end Engine

end Diagnostics
