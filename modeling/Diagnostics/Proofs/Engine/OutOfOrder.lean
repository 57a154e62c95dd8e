import Diagnostics.Proofs.Engine.Counting
import Diagnostics.Proofs.PolicyMap.Refusal

/-!
# Changes that come out of order

A change at a location in front of the last one of its file is refused, and so is closing a scope there.
The refusal comes in the middle of the call: a copy was made and is current by then. Nothing was recorded
all the same. The entries of all files, the scopes and every policy that was there are as before, so the
same policies are found at all locations.

A call that changes several diagnostics is refused at the first one or not at all: once one of them was
changed, the policy at the location can be changed in place. `RecordsAt` is what the steps of such calls
have in common.
-/

set_option autoImplicit false

namespace Diagnostics.Engine

open Diagnostics.Action PolicyMap

variable {loc : Location} {e e' e'' : Engine} {α β : Type} {ref : PolicyRef}

/-! ## What is left of a refused call -/

/-- No change is recorded between two engines that read locations: entries, scopes and old policies are
the same. -/
structure Unrecorded (e e' : Engine) : Prop where
  service : e.locations ≠ none
  table : e'.files = e.files
  locations : e'.locations = e.locations
  files : e'.policies.files = e.policies.files
  first : e'.policies.first = e.policies.first
  scopes : e'.scopes = e.scopes
  policies : ∀ ref, ref < e.policies.store.size → e'.policies.store.get ref = e.policies.store.get ref

/-- Engines that differ apart from their policies differ in no record. -/
theorem Apart.unrecorded (h : Apart e e') (h' : Unrecorded e' e'') : Unrecorded e e'' where
  service := by
    rw [← h.locations]
    exact h'.service
  table := h'.table.trans h.files
  locations := h'.locations.trans h.locations
  files := by rw [h'.files, h.policies]
  first := by rw [h'.first, h.policies]
  scopes := h'.scopes.trans h.scopes
  policies ref href := by
    rw [h'.policies ref (by rw [h.policies]; exact href), h.policies]

/-- The same policies are found in the same places. -/
theorem Unrecorded.policyAt (h : Unrecorded e e') (loc : Location) :
    ((policyAt (some loc)).perform e').1 = ((policyAt (some loc)).perform e).1 := by
  obtain ⟨service, hs⟩ := Option.ne_none_iff_exists'.mp h.service
  have hsame : SameEntries e.policies e'.policies := ⟨h.files.symm, h.first.symm⟩
  have hlookup := (lockstep_lookup service e.files loc e.policies e'.policies hsame).1
  unfold Engine.policyAt
  rw [perform_get_bind, perform_get_bind, h.locations]
  simp only [hs, h.table]
  unfold onPolicies
  rw [perform_bind, perform_bind, perform_onPart, perform_onPart, ← hlookup]
  generalize (PolicyMap.lookup service e.files loc).perform e.policies = found
  rcases found with ⟨_ | _ | _, _⟩ <;> rfl

/-! ## Steps of changes at a location -/

/-- An operation that at most records changes at a location: where it is refused, nothing was recorded
and a change there was not admitted to begin with; otherwise either changes there are admitted by then
or nothing was done. -/
def RecordsAt (loc : Location) (x : Action Engine α) : Prop :=
  ∀ e, Ends x e (fun _ e' => Admits loc e'.policies ∨ Apart e e') fun fault e' =>
    fault.IsOutOfOrder → Unrecorded e e' ∧ ¬Admits loc e.policies

/-- An engine does not differ from itself. -/
theorem Apart.refl (e : Engine) : Apart e e :=
  ⟨rfl, rfl, rfl, rfl, rfl⟩

/-- Two differences apart from the policies come to one. -/
theorem Apart.trans (h : Apart e e') (h' : Apart e' e'') : Apart e e'' where
  catalog := h'.catalog.trans h.catalog
  files := h'.files.trans h.files
  locations := h'.locations.trans h.locations
  policies := h'.policies.trans h.policies
  scopes := h'.scopes.trans h.scopes

/-- Giving a value records nothing. -/
theorem recordsAt_pure (a : α) : RecordsAt loc (pure a : Action Engine α) :=
  fun e => ends_pure (.inr (Apart.refl e))

/-- Reading the engine records nothing. -/
theorem recordsAt_get : RecordsAt loc (get : Action Engine Engine) :=
  fun e => .inr (Apart.refl e)

/-- Another fault is no refusal of a change. -/
theorem recordsAt_throw {fault : Fault} (h : ¬fault.IsOutOfOrder) :
    RecordsAt loc (throw fault : Action Engine α) :=
  fun _ => ends_throw fun hf => absurd hf h

/-- Logging records nothing. -/
theorem recordsAt_debug (message : String) : RecordsAt loc (debug message) :=
  fun _ => ends_modify (.inr ⟨rfl, rfl, rfl, rfl, rfl⟩)

/-- A value or another fault records nothing. -/
theorem recordsAt_ofExcept {x : Except Fault α} (h : ∀ fault, x = .error fault → ¬fault.IsOutOfOrder) :
    RecordsAt loc (ofExcept x : Action Engine α) :=
  fun e => ends_ofExcept (fun _ _ => .inr (Apart.refl e)) fun fault hx hf => absurd hf (h fault hx)

/-- Only an operation that did nothing can be followed by one that is refused. -/
theorem recordsAt_bind {x : Action Engine α} {f : α → Action Engine β} (hx : RecordsAt loc x)
    (hf : ∀ a, RecordsAt loc (f a)) : RecordsAt loc (x >>= f) := by
  intro e
  apply ends_bind
  refine (hx e).imp (fun a e₁ hfirst => ?_) fun _ _ h => h
  rcases hfirst with hadmits | hapart
  · refine (hf a e₁).imp (fun _ e' hsecond => ?_) fun fault e' hrefused horder => ?_
    · rcases hsecond with hadmits' | hapart'
      · exact .inl hadmits'
      · rw [← hapart'.policies] at hadmits
        exact .inl hadmits
    · exact absurd hadmits (hrefused horder).2
  · refine (hf a e₁).imp (fun _ e' hsecond => ?_) fun fault e' hrefused horder => ?_
    · exact hsecond.imp_right hapart.trans
    · obtain ⟨hunrecorded, hnot⟩ := hrefused horder
      rw [hapart.policies] at hnot
      exact ⟨hapart.unrecorded hunrecorded, hnot⟩

/-- A choice records what the branch taken does. -/
theorem recordsAt_ite {c : Prop} [Decidable c] {x y : Action Engine α} (hx : RecordsAt loc x)
    (hy : RecordsAt loc y) : RecordsAt loc (if c then x else y) :=
  fun e => ends_ite (fun _ => hx e) fun _ => hy e

/-- A loop stops at the first change that is refused; then none of its changes was admitted, the first one
included. -/
theorem recordsAt_forM {f : β → Action Engine PUnit} (h : ∀ b, RecordsAt loc (f b)) (l : List β) :
    RecordsAt loc (l.forM f) := by
  induction l with
  | nil => exact recordsAt_pure _
  | cons b l ih => exact recordsAt_bind (h b) fun _ => ih

/-- A loop with a state stops at the first change that is refused. -/
theorem recordsAt_forIn {f : β → α → Action Engine (ForInStep α)} (h : ∀ b a, RecordsAt loc (f b a))
    (l : List β) (a : α) : RecordsAt loc (forIn l a f) := by
  induction l generalizing a with
  | nil => exact recordsAt_pure a
  | cons b l ih =>
    rw [List.forIn_cons]
    refine recordsAt_bind (h b a) fun step => ?_
    cases step with
    | done a' => exact recordsAt_pure a'
    | yield a' => exact ih a'

/-! ## Finding and changing a policy -/

/-- Looking a policy up never refuses a change. -/
theorem avoids_policyAt (place : Option Location) :
    Avoids Fault.IsOutOfOrder (policyAt place) := by
  have hdemanded : ∀ found, Avoids Fault.IsOutOfOrder (demanded found)
    | none => avoids_throw (by rintro ⟨_, _, _, ⟨⟩⟩)
    | some _ => avoids_pure _
  unfold policyAt
  refine avoids_bind avoids_get fun e => ?_
  dsimp only
  split
  · exact avoids_bind (avoids_onPart (avoids_lookup _ _ _)) hdemanded
  · exact avoids_bind (avoids_pure _) hdemanded

/-- If a location was passed when its policy has been found, then finding it did nothing. -/
theorem policyAt_passed (ho : 0 ≤ loc.offset) (h : (policyAt (some loc)).perform e = (.ok ref, e'))
    (hp : Passed loc e'.policies) : e' = e := by
  rcases policyAt_ok h with ⟨l, service, map, hl, -, hlookup, rfl⟩ | ⟨-, -, rfl⟩
  · cases hl
    rw [lookup_passed hlookup hp ho]
  · rfl

/-- In an entered file a policy is found by the points of the file. -/
theorem policyAt_entered {service : LocationService} {file : FilePoints}
    (h : (policyAt (some loc)).perform e = (.ok ref, e')) (hs : e.locations = some service)
    (hfile : e.policies.file? (some loc.file) = some file) : file.lookup loc.offset = .ok ref := by
  rcases policyAt_ok h with ⟨l, _, map, hl, -, hlookup, -⟩ | ⟨hnone | hnone, -, -⟩
  · cases hl
    exact lookup_entered hlookup hfile
  · cases hnone
  · rw [hs] at hnone
    cases hnone

/-- Looking a policy up records no change. -/
theorem recordsAt_policyAt (ho : 0 ≤ loc.offset) : RecordsAt loc (policyAt (some loc)) := by
  intro e
  rw [ends_iff]
  constructor
  · intro ref e₁ hperf
    by_cases hp : Passed loc e₁.policies
    · rw [policyAt_passed ho hperf hp]
      exact .inr (Apart.refl e)
    · exact .inl fun hp' => absurd hp' hp
  · intro fault e₁ hperf horder
    exact absurd horder ((avoids_policyAt (some loc) e).of_error hperf)

/-- Changing a policy in place is not seen by the entries of files. -/
theorem admits_changed {map : PolicyMap} {f : Policy → Policy} (h : Admits loc map) :
    Admits loc (map.changed ref f) := by
  intro hp
  obtain ⟨file, r, hfile, hl, hloc, hcur, hs⟩ := h hp
  refine ⟨file, r, hfile, hl, hloc, hcur, ?_⟩
  unfold PolicyMap.changed PolicyStore.change
  rw [PolicyStore.get_update]
  split <;> exact hs

/-- A copy of a policy is recorded at a location, or it is refused there because the location was passed,
and then only the store has grown. -/
theorem ends_recordCopy (ho : 0 ≤ loc.offset) {service : LocationService} {e : Engine}
    (hservice : e.locations = some service) (base : PolicyRef) (message : String) :
    Ends (do
        let copy ← copyPolicy base
        onPolicies (PolicyMap.append service (← get).files loc copy)
        debug message
        return copy) e (fun _ e' => ¬Passed loc e'.policies) fun fault e' =>
      fault.IsOutOfOrder → Passed loc e.policies ∧ Unrecorded e e' := by
  apply ends_bind_of_ok (perform_copyPolicy base e)
  apply ends_get_bind
  apply ends_bind
  unfold onPolicies
  apply ends_onPart
  refine (ends_append service e.files _ _ ho).imp (fun _ map hnot => ?_) ?_
  · apply ends_bind_of_ok (perform_modify _ _)
    exact ends_pure hnot
  · intro fault map hrefused horder
    obtain ⟨hp, rfl⟩ := hrefused horder
    refine ⟨hp, by simp [hservice], rfl, rfl, rfl, rfl, rfl, ?_⟩
    intro r hr
    exact PolicyStore.get_add_of_lt _ hr

/-- A change gets a policy that it may change, or it is refused because the location was passed. -/
theorem ends_ownAt (ho : 0 ≤ loc.offset) (e : Engine) :
    Ends (ownAt loc) e (fun _ e' => Admits loc e'.policies) fun fault e' =>
      fault.IsOutOfOrder → Unrecorded e e' ∧ ¬Admits loc e.policies := by
  unfold ownAt
  apply ends_get_bind
  split
  · rename_i service hservice
    apply ends_bind
    rw [ends_iff]
    constructor
    · intro base e₁ hbase
      apply ends_get_bind
      dsimp only
      apply ends_ite
      · intro hown
        simp only [Bool.and_eq_true, decide_eq_true_eq, Bool.not_eq_true'] at hown
        apply ends_pure
        intro hp
        cases policyAt_passed ho hbase hp
        obtain ⟨file, last, hfile, -, -⟩ := hp
        have hfound := policyAt_entered hbase hservice hfile
        exact ⟨file, base, hfile, hfound, hown.1.1, hown.1.2, by simp [hown.2]⟩
      -- A copy is recorded. If that is refused the location was passed, and the current policy could not
      -- be changed in place.
      · intro hown
        have hservice₁ : e₁.locations = some service := by
          rw [(policyAt_unmoved hbase).1.locations, hservice]
        refine (ends_recordCopy ho hservice₁ base _).imp ?_ ?_
        · intro _ e₂ hnot hp
          exact absurd hp hnot
        · intro fault e₂ hrefused horder
          obtain ⟨hp, hunrecorded⟩ := hrefused horder
          cases policyAt_passed ho hbase hp
          refine ⟨hunrecorded, fun hadmits => ?_⟩
          obtain ⟨file, r, hfile, hl, hloc, hcur, hs⟩ := hadmits hp
          rw [policyAt_entered hbase hservice hfile, Except.ok.injEq] at hl
          subst hl
          simp [hloc, hcur, hs] at hown
    · intro fault e₁ hbase horder
      exact absurd horder ((avoids_policyAt (some loc) e).of_error hbase)
  · apply ends_throw
    rintro ⟨_, _, _, ⟨⟩⟩

/-- An edit of the policy at a location records at most one change there. -/
theorem recordsAt_changePolicy (ho : 0 ≤ loc.offset) (f : Policy → Policy) :
    RecordsAt loc (changePolicy (some loc) f) := by
  intro e
  unfold changePolicy
  apply ends_bind
  refine (ends_ownAt ho e).imp (fun ref e' hadmits => ?_) fun _ _ h => h
  exact ends_modify (.inl (admits_changed hadmits))

/-! ## Changes and scopes -/

/-- An entry that does not exist is another fault. -/
theorem entry_faults {catalog : Catalog} {id : Option Int} {fault : Fault}
    (h : catalog.entry id = .error fault) : ¬fault.IsOutOfOrder := by
  unfold Catalog.entry at h
  split at h
  · cases h
  · cases h
    rintro ⟨_, _, _, ⟨⟩⟩

/-- What the catalog says about an entry can only fail because the entry is not known. -/
theorem of_entry_faults {catalog : Catalog} {id : Option Int} {f : CatalogEntry → β} {fault : Fault}
    (h : (do return f (← catalog.entry id) : Except Fault β) = .error fault) :
    ¬fault.IsOutOfOrder := by
  cases hentry : catalog.entry id with
  | error fault' =>
    rw [hentry] at h
    cases h
    exact entry_faults hentry
  | ok entry =>
    rw [hentry] at h
    cases h

/-- A mapping that does not exist is another fault. -/
theorem mappingOf_faults {policy : Policy} {catalog : Catalog} {id : Option Int} {fault : Fault}
    (h : policy.mappingOf catalog id = .error fault) : ¬fault.IsOutOfOrder := by
  unfold Policy.mappingOf at h
  split at h
  · cases h
  · exact of_entry_faults h

/-- Looking a mapping up records no change. -/
theorem recordsAt_mappingAt (ho : 0 ≤ loc.offset) (id : Option Int) :
    RecordsAt loc (mappingAt id (some loc)) := by
  unfold mappingAt readPolicy
  refine recordsAt_bind (recordsAt_policyAt ho) fun ref => ?_
  refine recordsAt_bind (recordsAt_bind recordsAt_get fun _ => recordsAt_pure _) fun policy => ?_
  exact recordsAt_bind recordsAt_get fun _ => recordsAt_ofExcept fun _ => mappingOf_faults

/-- A severity records at most one change. -/
theorem recordsAt_setSeverity (ho : 0 ≤ loc.offset) (id : Int) (severity : Severity) :
    RecordsAt loc (setSeverity id severity (some loc)) := by
  have hset : ∀ entry : CatalogEntry, RecordsAt loc (do
      let current ← mappingAt (some id) (some loc)
      let mapping := requestedMapping current severity (some loc).isSome
      changePolicy (some loc) fun policy => policy.set id mapping
      let place := ((some loc).map Location.describe).getD "<command line>"
      debug s!"{entry.name.display} -> {mapping.severity.spelling} at {place}") := fun entry =>
    recordsAt_bind (recordsAt_mappingAt ho _) fun _ =>
      recordsAt_bind (recordsAt_changePolicy ho _) fun _ => recordsAt_debug _
  unfold setSeverity
  refine recordsAt_bind recordsAt_get fun e => ?_
  refine recordsAt_bind (recordsAt_ofExcept fun _ => entry_faults) fun entry => ?_
  refine recordsAt_bind (recordsAt_ofExcept fun _ => of_entry_faults) fun mayBeAny => ?_
  refine recordsAt_ite (recordsAt_throw ?_) (recordsAt_bind recordsAt_get fun e' => ?_)
  · rintro ⟨_, _, _, ⟨⟩⟩
  · refine recordsAt_ite (recordsAt_throw ?_) (hset entry)
    rintro ⟨_, _, _, ⟨⟩⟩

/-- A group that does not exist is another fault. -/
theorem members_faults {catalog : Catalog} {flavor : Flavor} {group : Scalar} {fault : Fault}
    (h : catalog.members flavor group = .error fault) : ¬fault.IsOutOfOrder := by
  rintro ⟨_, _, _, rfl⟩
  unfold Catalog.members at h
  dsimp only at h
  split at h
  · split at h
    · cases h
    · split at h <;> cases h
  · cases h

/-- Looking a group up records no change. -/
theorem recordsAt_groupMembers (flavor : Flavor) (group : Scalar) :
    RecordsAt loc (groupMembers flavor group) := by
  unfold groupMembers
  intro e
  apply ends_get_bind
  split
  · exact recordsAt_pure _ e
  · exact recordsAt_bind (recordsAt_debug _) (fun _ => recordsAt_pure _) e
  · exact recordsAt_bind (recordsAt_debug _) (fun _ => recordsAt_pure _) e
  · rename_i fault _ _ hfault
    exact recordsAt_throw (members_faults hfault) e

/-- Every change at a location is refused at once or not at all. -/
theorem recordsAt_change (ho : 0 ≤ loc.offset) (change : Change) :
    RecordsAt loc (change.perform (some loc)) := by
  cases change with
  | severity id level => exact recordsAt_setSeverity ho id level
  | group flavor name level =>
    refine recordsAt_bind ?_ fun _ => recordsAt_pure _
    unfold setGroup
    refine recordsAt_bind (recordsAt_groupMembers flavor name) fun members => ?_
    split
    · exact recordsAt_pure _
    · refine recordsAt_bind ?_ fun _ => recordsAt_pure _
      exact recordsAt_forM (fun id => recordsAt_setSeverity ho id level) _
  | all flavor level =>
    refine recordsAt_bind ?_ fun _ => recordsAt_pure _
    unfold setAll
    refine recordsAt_bind recordsAt_get fun e => ?_
    refine recordsAt_bind (recordsAt_forIn (fun id _ => ?_) _ _) fun _ => recordsAt_pure _
    refine recordsAt_bind (recordsAt_ofExcept fun _ => of_entry_faults) fun mayBeAny => ?_
    exact recordsAt_ite (recordsAt_bind (recordsAt_setSeverity ho id level) fun _ => recordsAt_pure _)
      (recordsAt_pure _)
  | toggle which value => exact recordsAt_changePolicy ho _
  | extension level => exact recordsAt_changePolicy ho _

/-- Closing a scope is refused before it is taken off. -/
theorem ends_popScope (ho : 0 ≤ loc.offset) (e : Engine) :
    Ends (popScope (some loc)) e (fun _ _ => True) fun fault e' =>
      fault.IsOutOfOrder → Unrecorded e e' := by
  unfold popScope
  apply ends_get_bind
  split
  · exact ends_bind (ends_modify trivial)
  · rename_i saved outer hscopes
    apply ends_bind
    unfold restore
    apply ends_get_bind
    have hrest : ∀ e₁, Ends (do
        modify fun e => { e with scopes := outer, policies.store := e.policies.store.release saved }
        let depth := (← get).scopeDepth
        debug s!"Popped severity scope at {Location.describe? (some loc)} (depth {depth})"
        debug ("Severity states:\n" ++ (← get).policies.dump)
        return true) e₁ (fun _ _ => True) fun fault e' => fault.IsOutOfOrder → Unrecorded e e' :=
      fun _ => trivial
    apply ends_ite
    · intro _
      split
      · rename_i service hl hservice
        cases hl
        unfold onPolicies
        apply ends_onPart
        refine (ends_append service e.files saved e.policies ho).imp (fun _ map _ => hrest _) ?_
        intro fault map hrefused horder
        obtain ⟨-, rfl⟩ := hrefused horder
        exact ⟨by simp [hservice], rfl, rfl, rfl, rfl, rfl, fun _ _ => rfl⟩
      · exact ends_modify (hrest _)
    · intro _
      exact ends_pure (hrest _)

/-- Whatever call at a location is refused because it comes out of order, it has recorded nothing. -/
theorem unrecorded_of_refused (call : LocatedCall) (ho : 0 ≤ loc.offset) {fault : Fault}
    (h : (call.perform (some loc)).perform e = (.error fault, e')) (horder : fault.IsOutOfOrder) :
    Unrecorded e e' := by
  cases call with
  | change change => exact ((recordsAt_change ho change e).of_error h horder).1
  | push =>
    have hpush : Avoids Fault.IsOutOfOrder (pushScope (some loc)) := by
      unfold pushScope currentPolicy
      refine avoids_bind (avoids_bind avoids_get fun e => ?_) fun ref => ?_
      · split
        · exact avoids_pure _
        · apply avoids_throw
          rintro ⟨_, _, _, ⟨⟩⟩
      · exact avoids_bind (avoids_modify _) fun _ => avoids_bind avoids_get fun _ => avoids_modify _
    exact absurd horder ((hpush e).of_error h)
  | pop =>
    have hpop : Ends (LocatedCall.pop.perform (some loc)) e (fun _ _ => True) fun fault e' =>
        fault.IsOutOfOrder → Unrecorded e e' :=
      ends_bind ((ends_popScope ho e).imp (fun _ _ _ => trivial) fun _ _ h => h)
    exact hpop.of_error h horder

/-! ## Refused calls -/

/-- What occurs is in the store. -/
theorem Occurs.lt_size {base : Nat} (ho : e.Occurs ref) (h : Counts base e.scopes e.policies) :
    ref < e.policies.store.size := by
  rcases ho with ⟨key, file, hfile, p, hp, rfl⟩ | hfirst | hcur | hscope
  · exact (h.point_bounds hfile hp).2
  · exact (h.first_bounds hfirst).2
  · exact (h.current ref hcur).2
  · exact (h.scope_bounds hscope).2

/-- A change or the closing of a scope at a location that is refused because it comes out of order records
nothing, in every engine that calls lead to. The points of all files, the scopes, and what is said by every
policy that occurs, with its count, are as before, and the same policies are found at all locations. -/
theorem refused_records_nothing {depth : Nat} {front : FrontEnd} (hfront : front.Acts depth)
    (he : Attained front e) (call : LocatedCall) (ho : 0 ≤ loc.offset) {offset last file : Int}
    (h : (call.perform (some loc)).perform e =
      (.error (.ofDefect (.transitionOutOfOrder offset last file)), e')) :
    e'.policies.files = e.policies.files ∧ e'.scopes = e.scopes ∧
      (∀ ref, e.Occurs ref → e'.policies.store.get ref = e.policies.store.get ref) ∧
      ∀ place, ((policyAt (some place)).perform e').1 = ((policyAt (some place)).perform e).1 ∧
        ∀ ref e₁, (policyAt (some place)).perform e = (.ok ref, e₁) →
          e'.policies.store.get ref = e.policies.store.get ref := by
  have hunrecorded := unrecorded_of_refused call ho h ⟨offset, last, file, rfl⟩
  obtain ⟨base, hcounts⟩ := upkeep_counted.lasting.attained counted_start hfront he
  refine ⟨hunrecorded.files, hunrecorded.scopes, fun ref hoccurs => ?_, fun place => ⟨?_, ?_⟩⟩
  · exact hunrecorded.policies ref (hoccurs.lt_size hcounts)
  · exact hunrecorded.policyAt place
  · intro ref e₁ hfound
    apply hunrecorded.policies
    rcases policyAt_ok hfound with ⟨_, service, map, -, -, hlookup, -⟩ | ⟨-, hcur, -⟩
    · have hgrown := (grown_lookup service _ _ e.policies).of_ok hlookup
      rw [← hgrown.size]
      exact (lookup_bounds hcounts hlookup).2
    · exact (hcounts.current ref hcur).2

/-- After a refused change the scope that is open cannot be closed further up in the file either: it stays
open, and both policies in the file are found where they were. -/
theorem refused_again : FrontEnd.Acts 0 quotingFront ∧ Attained quotingFront refused ∧
    ∃ e', (LocatedCall.pop.perform (some ⟨1, 5⟩)).perform refused =
        (.error (.ofDefect (.transitionOutOfOrder 5 10 1)), e') ∧
      e'.policies.files = refused.policies.files ∧ e'.scopes = [1] ∧
      e'.policies.store.get 1 = refused.policies.store.get 1 ∧
      ((policyAt (some ⟨1, 7⟩)).perform e').1 = .ok 0 ∧
      ((policyAt (some ⟨1, 12⟩)).perform e').1 = .ok 1 := by
  obtain ⟨e', hperf⟩ : ∃ e', (LocatedCall.pop.perform (some ⟨1, 5⟩)).perform refused =
      (.error (.ofDefect (.transitionOutOfOrder 5 10 1)), e') := ⟨_, rfl⟩
  have hopen : refused.scopes = [1] := rfl
  obtain ⟨hfiles, hscopes, hstore, hfound⟩ := refused_records_nothing (acts_quotingFront 0)
    attained_refused .pop (by decide) hperf
  refine ⟨acts_quotingFront 0, attained_refused, e', hperf, hfiles, hscopes.trans hopen, ?_, ?_, ?_⟩
  · apply hstore
    exact .inr (.inr (.inr (by simp [hopen])))
  · exact (hfound ⟨1, 7⟩).1
  · exact (hfound ⟨1, 12⟩).1

end Diagnostics.Engine
