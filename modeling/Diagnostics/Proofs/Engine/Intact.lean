import Diagnostics.Proofs.Engine.Counting
import Diagnostics.Proofs.PolicyMap.Complete
import Diagnostics.Proofs.PolicyMap.Grown
import Diagnostics.Proofs.PolicyMap.InEffect

/-!
# Policies after calls that failed

A call that fails may have entered files, and it may have made a policy current that was recorded
nowhere. Even so no file is half entered: over well placed include points nothing can fail while a known
file is entered, and a location in an unknown file is refused before anything is entered. So every engine
that calls lead to, failing ones included, finds a policy at every location in a known file, and it has a
current policy.
-/

set_option autoImplicit false

namespace Diagnostics

open Diagnostics.Action

namespace PolicyMap

variable {sources : List SourceFile} {table : FileTable} {map : PolicyMap}

/-- A map is complete, and it has a current policy. -/
structure Lively (sources : List SourceFile) (map : PolicyMap) : Prop where
  complete : Complete sources map
  current : ∃ ref, map.current = some ref

/-- The store of policies does not matter. -/
theorem Lively.withStore (h : Lively sources map) (store : PolicyStore) :
    Lively sources { map with store } :=
  ⟨h.complete.withStore store, h.current⟩

/-- There is a current policy once one is made current. -/
theorem Lively.replaceCurrent (h : Lively sources map) (ref : PolicyRef) :
    Lively sources (map.replaceCurrent ref) :=
  ⟨h.complete.replaceCurrent ref, ref, replaceCurrent_current map ref⟩

/-- Another source file does not matter to the files that were entered. -/
theorem Lively.addFile {file : SourceFile} (h : Lively sources map) : Lively (file :: sources) map :=
  ⟨h.complete.addFile, h.current⟩

/-- Looking a policy up keeps a map complete. -/
theorem Lively.lookup (h : Lively table.newestFirst map)
    (hw : FileTable.WellPlaced table.newestFirst) (service : LocationService) (loc : Location) :
    EndsIn true (Lively table.newestFirst) map (lookup service table loc) := by
  intro _
  constructor
  · cases service with
    | files => exact (h.complete.lookup hw loc).of_total
    | abstract =>
      unfold PolicyMap.lookup
      rw [perform_get_bind]
      split
      · exact h.complete
      · exact h.complete
  · rw [(grown_lookup service table loc map).of_total.current]
    exact h.current

/-- What is appended is current, also if the append is refused. -/
theorem append_current (service : LocationService) (loc : Location) (ref : PolicyRef) :
    EndsIn true (fun map' => map'.current = some ref) map (append service table loc ref) := by
  unfold append
  apply endsIn_modify_bind
  refine endsIn_bind (endsIn_ofExcept _ rfl) fun found m _ hm => ?_
  refine endsIn_bind (fun _ => ?_) fun file m' _ hm' => ?_
  · exact (grown_enter table _ m).of_total.current.trans hm
  · split
    · exact endsIn_throw _ hm'
    · split
      · exact endsIn_throw _ hm'
      · split
        · split
          · exact endsIn_modify hm'
          · exact endsIn_pure _ hm'
        · exact endsIn_modify hm'

/-- A change, admitted or refused, keeps a map complete. -/
theorem Lively.append (h : Lively table.newestFirst map)
    (hw : FileTable.WellPlaced table.newestFirst) (service : LocationService) (loc : Location)
    (ref : PolicyRef) : EndsIn true (Lively table.newestFirst) map (append service table loc ref) := by
  intro _
  constructor
  · cases service with
    | files => exact (h.complete.append hw loc ref).of_total
    | abstract => exact h.complete.withCurrent ref loc
  · exact ⟨ref, (append_current service loc ref).of_total⟩

end PolicyMap

namespace Engine

/-- Over well placed include points, the policies are complete and there is a current one. -/
def Intact (e : Engine) : Prop :=
  FileTable.WellPlaced e.files.newestFirst → PolicyMap.Lively e.files.newestFirst e.policies

variable {e e' : Engine} {loc : Option Location} {ref : PolicyRef}

/-- What lies apart from files and policies does not matter. -/
theorem Intact.apart (h : e.Intact) (ha : Apart e e') : e'.Intact := by
  unfold Intact
  rw [ha.files, ha.policies]
  exact h

/-- The store of policies does not matter to an engine either. -/
theorem Intact.withStore (h : e.Intact) (store : PolicyStore) :
    Intact { e with policies := { e.policies with store } } :=
  fun hw => (h hw).withStore store

/-- Logging keeps an engine intact. -/
theorem intact_debug (message : String) : Keeps true Intact (debug message) :=
  keeps_modify fun _ h => h

/-! ## Finding a policy -/

/-- What keeps the policies complete over well placed files keeps the engine intact. -/
theorem intact_onPolicies {α : Type} {x : Action PolicyMap α}
    (hx : FileTable.WellPlaced e.files.newestFirst →
      EndsIn true (PolicyMap.Lively e.files.newestFirst) e.policies x) :
    EndsIn true Intact e (onPolicies x) :=
  fun _ hw => (hx hw).of_total

/-- Looking a policy up keeps an engine intact. -/
theorem intact_policyAt (loc : Option Location) : Keeps true Intact (policyAt loc) := by
  have hdemanded : ∀ found, Keeps true Intact (demanded found)
    | none => keeps_throw _
    | some _ => keeps_pure _
  intro e he
  unfold policyAt
  apply endsIn_get_bind
  dsimp only
  split
  · refine endsIn_bind ?_ fun found e' _ he' => hdemanded found e' he'
    exact intact_onPolicies fun hw => (he hw).lookup hw _ _
  · exact keeps_bind (keeps_pure _) hdemanded e he

/-- A change, admitted or refused, keeps an engine intact. -/
theorem intact_append (he : e.Intact) (service : LocationService) (l : Location) (ref : PolicyRef) :
    EndsIn true Intact e (onPolicies (PolicyMap.append service e.files l ref)) :=
  intact_onPolicies fun hw => (he hw).append hw service l ref

/-- Making the current policy a private one keeps an engine intact. -/
theorem intact_ownCurrent : Keeps true Intact ownCurrent := by
  intro e he
  rcases Option.eq_none_or_eq_some e.policies.current with hcur | ⟨cur, hcur⟩
  · exact endsIn_of_perform (perform_bind_of_error (perform_currentPolicy_none hcur)) he
  · by_cases hs : (e.policies.store.get cur).isShared = true
    · obtain ⟨outlet, hperf⟩ := perform_ownCurrent_shared hcur hs
      exact endsIn_of_perform hperf fun hw => ((he hw).withStore _).replaceCurrent _
    · exact endsIn_of_perform (perform_ownCurrent_alone hcur hs) he

/-- Making the policy at a location a private one keeps an engine intact. -/
theorem intact_ownAt (l : Location) : Keeps true Intact (ownAt l) := by
  intro e he
  unfold ownAt
  apply endsIn_get_bind
  split
  · refine endsIn_bind (intact_policyAt (some l) e he) fun base e₁ _ he₁ => ?_
    apply endsIn_get_bind
    dsimp only
    split
    · exact endsIn_pure _ he₁
    · refine endsIn_bind_of_ok (perform_copyPolicy base e₁) (endsIn_get_bind ?_)
      refine endsIn_bind (intact_append (he₁.withStore _) _ _ _) fun _ e₂ _ he₂ => ?_
      exact keeps_bind (intact_debug _) (fun _ => keeps_pure _) e₂ he₂
  · exact endsIn_throw _ he

/-- Both ways to a private policy keep an engine intact. -/
theorem intact_ownPolicy (loc : Option Location) : Keeps true Intact (ownPolicy loc) := by
  cases loc with
  | none => exact intact_ownCurrent
  | some l => exact intact_ownAt l

/-! ## Scopes -/

/-- Opening a scope keeps an engine intact. -/
theorem intact_pushScope (loc : Option Location) : Keeps true Intact (pushScope loc) := by
  intro e he
  rcases Option.eq_none_or_eq_some e.policies.current with hcur | ⟨cur, hcur⟩
  · exact endsIn_of_perform (perform_bind_of_error (perform_currentPolicy_none hcur)) he
  · obtain ⟨outlet, hperf⟩ := perform_pushScope hcur loc
    exact endsIn_of_perform hperf (he.withStore _)

/-- Recording a policy at a location keeps an engine intact. -/
theorem intact_restore (saved : PolicyRef) (loc : Option Location) :
    Keeps true Intact (restore saved loc) := by
  intro e he
  unfold restore
  apply endsIn_get_bind
  split
  · split
    · exact intact_append he _ _ _
    · exact endsIn_modify fun hw => (he hw).replaceCurrent saved
  · exact endsIn_pure _ he

/-- Closing a scope keeps an engine intact. -/
theorem intact_popScope (loc : Option Location) : Keeps true Intact (popScope loc) := by
  intro e he
  unfold popScope
  apply endsIn_get_bind
  split
  · exact keeps_bind (intact_debug _) (fun _ => keeps_pure _) e he
  · refine endsIn_bind (intact_restore _ loc e he) fun _ e₁ _ he₁ => endsIn_modify_bind ?_
    have hreports : ∀ message message' : Engine → String, Keeps true Intact (do
        debug (message (← get))
        debug (message' (← get))
        pure true) := fun _ _ =>
      keeps_bind keeps_get fun _ => keeps_bind (intact_debug _) fun _ =>
        keeps_bind keeps_get fun _ => keeps_bind (intact_debug _) fun _ => keeps_pure _
    exact hreports _ _ _ (he₁.withStore _)

/-! ## All calls -/

/-- Adding a file keeps an engine intact, wherever the file is included. -/
theorem intact_addFile (name text : String) (includedAt : Option Location) :
    Keeps true Intact (addFile name text includedAt) := by
  intro e he
  unfold addFile
  apply endsIn_get_bind
  refine endsIn_bind (endsIn_ofExcept _ he) fun added e' hperf _ => endsIn_modify ?_
  obtain ⟨hadd, rfl⟩ := perform_ofExcept_eq_ok.mp hperf
  intro hw
  have hfiles := (FileTable.add_eq_ok hadd).1
  simp only at hw ⊢
  rw [hfiles] at hw ⊢
  exact (he hw.2).addFile

/-- An engine is intact when it starts. -/
theorem intact_start (e : Engine) : e.start.Intact := by
  obtain ⟨outlet, hperf⟩ := perform_reset e
  unfold start
  rw [hperf]
  exact fun _ => ⟨.of_nil rfl rfl, _, rfl⟩

/-- All calls keep it, whether they fail or not. -/
theorem upkeep_intact : Upkeep true Intact where
  apart := Intact.apart
  look := intact_policyAt
  own := intact_ownPolicy
  change he hperf _ := ((intact_ownPolicy _ _ he).of_ok hperf).withStore _
  push := intact_pushScope
  pop := intact_popScope
  addFile := intact_addFile
  reset e _ := fun _ => intact_start e

/-- An engine whose include points are well placed has complete policies with right counts, and a current
one. -/
structure Whole (e : Engine) : Prop where
  placed : FileTable.WellPlaced e.files.newestFirst
  lively : PolicyMap.Lively e.files.newestFirst e.policies
  counted : e.Counted

/-- The engines that calls lead to, failing ones included, are whole over well placed include points. -/
theorem whole_of_attained {depth : Nat} {front : FrontEnd} (hfront : front.Acts depth)
    (h : Attained front e) (hw : FileTable.WellPlaced e.files.newestFirst) : e.Whole where
  placed := hw
  lively := upkeep_intact.lasting.attained intact_start hfront h hw
  counted := upkeep_counted.lasting.attained counted_start hfront h

end Engine

end Diagnostics
