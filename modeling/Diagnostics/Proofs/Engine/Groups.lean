import Diagnostics.Proofs.Catalog.Members
import Diagnostics.Proofs.Engine.Acceptance
import Diagnostics.Proofs.Engine.Repeated
import Mathlib

/-!
# Changing a whole group

A group is changed one diagnostic after the other. The first change may be refused for many reasons, and
then nothing was changed. Once it succeeded, the others find the place ready, and they can only be refused
because of the class of a diagnostic: an error or a note among the members that is to be mapped below an
error. The members in front of it stay mapped. So a call that maps to errors or fatal errors is all or
nothing, and so is one on a group of warnings, extensions and remarks.
-/

set_option autoImplicit false

namespace Diagnostics

/-! ## Loops that may stop -/

namespace Action

variable {σ α : Type}

/-- If each pass of a loop either leads on or fails without doing anything, then a loop that fails stopped
in front of one element, and what was done is what the passes before that one do. -/
theorem ends_forM {f : α → Action σ PUnit} {R : σ → Prop} {bad : α → Fault → Prop} {l : List α}
    (h : ∀ a ∈ l, ∀ s, R s → Ends (f a) s (fun _ => R) fun fault s' => s' = s ∧ bad a fault) {s : σ}
    (hs : R s) : Ends (l.forM f) s (fun _ => R) fun fault s' =>
      ∃ done a rest, l = done ++ a :: rest ∧ (done.forM f).perform s = (.ok (), s') ∧ bad a fault := by
  induction l generalizing s with
  | nil => exact ends_pure hs
  | cons a l ih =>
    apply ends_bind
    have hfirst := h a List.mem_cons_self s hs
    rw [ends_iff] at hfirst ⊢
    constructor
    · intro _ s₁ hperf
      have hrest := ih (fun b hb => h b (List.mem_cons_of_mem a hb)) (hfirst.1 _ s₁ hperf)
      refine hrest.imp (fun _ _ h => h) ?_
      rintro fault s' ⟨done, b, rest, rfl, hdone, hbad⟩
      exact ⟨a :: done, b, rest, rfl, (perform_bind_of_ok hperf).trans hdone, hbad⟩
    · intro fault s' hperf
      obtain ⟨rfl, hbad⟩ := hfirst.2 fault s' hperf
      exact ⟨[], a, l, rfl, rfl, hbad⟩

end Action

open Diagnostics.Action

/-! ## Requests made twice -/

/-- Asking once more for the same level changes nothing. -/
theorem Engine.requestedMapping_again (mapping : Mapping) (level : Severity) (isPragma : Bool) :
    requestedMapping (requestedMapping mapping level isPragma) level isPragma =
      requestedMapping mapping level isPragma := by
  unfold requestedMapping Mapping.requested
  by_cases hw : level = .warning
  · by_cases he : .error ≤ mapping.severity
    · simp [hw, he]
    · subst hw
      have hlt : ¬Severity.error ≤ .warning := by decide
      simp [he, hlt]
  · simp [hw]

namespace Policy

variable {catalog : Catalog} {f : Mapping → Mapping}

/-- Only the diagnostic that is remapped is mapped differently. -/
theorem mappingOf_remap (policy : Policy) (id i : Int) :
    (policy.remap catalog f id).mappingOf catalog (some i) =
      if i = id then (policy.mappingOf catalog (some i)).map f
      else policy.mappingOf catalog (some i) := by
  cases hmapping : policy.mappingOf catalog (some id) with
  | error fault =>
    have hsame : policy.remap catalog f id = policy := by
      unfold remap
      rw [hmapping]
    rw [hsame]
    split
    · rename_i hi
      subst hi
      rw [hmapping]
      rfl
    · rfl
  | ok mapping =>
    rw [remap_of_ok hmapping]
    split
    · rename_i hi
      subst hi
      rw [hmapping, mappingOf_of_get? (by rw [get?_set, if_pos rfl])]
      rfl
    · rename_i hi
      exact mappingOf_congr (by rw [get?_set, if_neg hi])

/-- A diagnostic that is remapped several times is remapped as if once. -/
theorem mappingOf_remapAll (hf : ∀ mapping, f (f mapping) = f mapping) (policy : Policy)
    (ids : List Int) (i : Int) :
    (policy.remapAll catalog f ids).mappingOf catalog (some i) =
      if i ∈ ids then (policy.mappingOf catalog (some i)).map f
      else policy.mappingOf catalog (some i) := by
  induction ids generalizing policy with
  | nil => rfl
  | cons id ids ih =>
    have hstep : policy.remapAll catalog f (id :: ids) =
        (policy.remap catalog f id).remapAll catalog f ids := rfl
    rw [hstep, ih, mappingOf_remap]
    by_cases hi : i = id
    · subst hi
      rw [if_pos rfl, if_pos List.mem_cons_self]
      split
      · cases policy.mappingOf catalog (some i) with
        | error fault => rfl
        | ok mapping => exact congrArg Except.ok (hf mapping)
      · rfl
    · rw [if_neg hi]
      simp [hi]

end Policy

namespace Engine

variable {e e' : Engine} {place : Option Location} {id : Int} {ids : List Int} {entry : CatalogEntry}
  {severity : Severity} {value : Policy} {catalog : Catalog}

/-! ## Mappings in a place -/

/-- What an engine answers when it is asked for the mapping of a diagnostic at a location, or without
one. -/
def mappingFound (e : Engine) (id : Option Int) (place : Option Location) : Except Fault Mapping :=
  ((mappingAt id place).perform e).1

/-- The mapping that is found is that of the policy that is found. -/
theorem mappingFound_eq (e : Engine) (id : Option Int) (place : Option Location) :
    e.mappingFound id place = (e.found place).bind fun policy => policy.mappingOf e.catalog id := by
  unfold mappingFound mappingAt found
  rcases hperf : (policyAt place).perform e with ⟨fault | ref, e₁⟩
  · rw [perform_bind_of_error hperf, perform_bind_of_error hperf]
    rfl
  · rw [perform_bind_of_ok hperf, perform_bind_of_ok hperf,
      perform_bind_of_ok (perform_readPolicy ref e₁), perform_readPolicy, perform_get_bind,
      perform_ofExcept, (policyAt_unmoved hperf).1.catalog]
    rfl

/-- Certain diagnostics are mapped to a level in a place, and no other one is mapped differently there. -/
structure Mapped (ids : List Int) (severity : Severity) (place : Option Location) (e e' : Engine) :
    Prop where
  members : ∀ id ∈ ids, ∃ old, e.mappingFound (some id) place = .ok old ∧
    e'.mappingFound (some id) place = .ok (requestedMapping old severity place.isSome)
  others : ∀ id ∉ ids, e'.mappingFound (some id) place = e.mappingFound (some id) place

/-- If a policy was remapped, its diagnostics are mapped to the level. -/
theorem mapped_of_found (hids : ∀ id ∈ ids, ∃ entry, e.catalog.entry (some id) = .ok entry)
    (hcatalog : e'.catalog = e.catalog) (hbefore : e.found place = .ok value)
    (hafter : e'.found place = .ok (value.remapAll e.catalog
      (fun current => requestedMapping current severity place.isSome) ids)) :
    Mapped ids severity place e e' := by
  have hmapping : ∀ id : Int, e.mappingFound (some id) place = value.mappingOf e.catalog (some id) := by
    intro id
    rw [mappingFound_eq, hbefore]
    rfl
  have hmapping' : ∀ id : Int, e'.mappingFound (some id) place =
      if id ∈ ids then (value.mappingOf e.catalog (some id)).map
        fun current => requestedMapping current severity place.isSome
      else value.mappingOf e.catalog (some id) := by
    intro id
    rw [mappingFound_eq, hafter, hcatalog]
    exact Policy.mappingOf_remapAll (fun m => requestedMapping_again m severity place.isSome) value ids id
  constructor
  · intro id hid
    obtain ⟨old, hold⟩ := value.exists_mappingOf (hids id hid)
    refine ⟨old, (hmapping id).trans hold, ?_⟩
    rw [hmapping', if_pos hid, hold]
    rfl
  · intro id hid
    rw [hmapping', if_neg hid, hmapping]

/-- What is found does not depend on what was logged. -/
theorem found_log (e : Engine) (outlet : Outlet) (place : Option Location) :
    found { e with outlet } place = e.found place := by
  let Logged : Engine → Engine → Prop := fun e e' => e' = { e with outlet }
  have hdemanded : ∀ found, Lockstep Logged (demanded found) (demanded found)
    | none => lockstep_throw _
    | some _ => lockstep_pure _
  have hlook : Lockstep Logged (policyAt place) (policyAt place) := by
    unfold policyAt
    apply lockstep_get_bind
    rintro e _ rfl
    dsimp only
    split
    · refine lockstep_bind ?_ hdemanded
      rintro e _ rfl
      exact ⟨rfl, rfl⟩
    · exact lockstep_bind (lockstep_pure _) hdemanded
  have hread : ∀ ref, Lockstep Logged (readPolicy ref) (readPolicy ref) := by
    rintro ref e _ rfl
    exact ⟨rfl, rfl⟩
  exact (lockstep_bind hlook hread e _ rfl).1.symm

/-- All parts of a change make of what is found in its place what they ought to. -/
theorem applies_found (catalog : Catalog) (place : Option Location) :
    Applies catalog place fun value e => e.Whole ∧ e.catalog = catalog ∧ e.found place = .ok value where
  catalog h := h.2.1
  log {value e} outlet h :=
    ⟨⟨h.1.placed, h.1.lively, h.1.counted⟩, h.2.1, (found_log e outlet place).trans h.2.2⟩
  look {value e ref e'} h hlook := by
    obtain ⟨hwhole, hcatalog, hfound⟩ := h
    have hvalue : e'.policies.policyOf ref = value := by
      rw [found_eq hlook, Except.ok.injEq] at hfound
      exact hfound
    refine ⟨⟨hwhole.of_policyAt hlook, (policyAt_unmoved hlook).1.catalog.trans hcatalog, ?_⟩, hvalue⟩
    rw [found_eq (policyAt_again hlook), hvalue]
  own {value e ref e'} h hown := by
    obtain ⟨hwhole, hcatalog, hfound⟩ := h
    have hwhole' := hwhole.of_ownPolicy hown
    have hgranted := granted_of_ownPolicy hwhole hown
    have hcatalog' := (ownPolicy_unmoved hown).1.catalog.trans hcatalog
    have hvalue : e'.policies.policyOf ref = value := by
      rw [hwhole.found_own hown, Except.ok.injEq] at hfound
      exact hfound
    refine ⟨⟨hwhole', hcatalog', ?_⟩, hvalue, fun f => ⟨hwhole'.changed ref f e'.outlet, hcatalog', ?_⟩⟩
    · rw [found_eq (hgranted.found e'.policies.store e'.outlet), hvalue]
    · rw [← hvalue]
      exact hgranted.found_changed f e'.outlet

/-! ## Changing one member -/

/-- A diagnostic of the catalog has a mapping wherever a policy is found. -/
theorem ends_mappingAt {ok : Mapping → Engine → Prop} {failed : Fault → Engine → Prop}
    (hentry : e.catalog.entry (some id) = .ok entry)
    (hlook : ∀ fault e₁, (policyAt place).perform e = (.error fault, e₁) → failed fault e₁)
    (hfound : ∀ base e₁, (policyAt place).perform e = (.ok base, e₁) → ∀ mapping, ok mapping e₁) :
    Ends (mappingAt (some id) place) e ok failed := by
  unfold mappingAt
  apply ends_bind
  rw [ends_iff]
  constructor
  · intro base e₁ hperf
    have hcatalog : e₁.catalog = e.catalog := (policyAt_unmoved hperf).1.catalog
    obtain ⟨mapping, hmapping⟩ := (e₁.policies.store.get base).policy.exists_mappingOf ⟨entry, hentry⟩
    apply ends_bind_of_ok (perform_readPolicy base e₁)
    apply ends_get_bind
    rw [hcatalog, hmapping]
    exact hfound base e₁ hperf mapping
  · exact hlook

/-- How a change of one diagnostic ends, by way of its steps. -/
theorem ends_setSeverity {ok : PUnit → Engine → Prop} {failed : Fault → Engine → Prop}
    (hentry : e.catalog.entry (some id) = .ok entry)
    (hrefused : ¬e.catalog.Permits id severity →
      failed (.ofDefect (.errorMappedBelow entry.name.display severity)) e)
    (hunserved : place.isSome = true → e.locations = none → failed (.ofDefect .resolverMissing) e)
    (hlook : ∀ fault e₁, (policyAt place).perform e = (.error fault, e₁) → failed fault e₁)
    (hown : ∀ base e₁, (policyAt place).perform e = (.ok base, e₁) →
      Ends (ownPolicy place) e₁ (fun ref e₂ => ∀ f outlet,
        ok () { e₂ with policies := e₂.policies.changed ref f, outlet }) failed) :
    Ends (setSeverity id severity place) e ok failed := by
  obtain ⟨mayBeAny, hmay⟩ : ∃ mayBeAny, e.catalog.isWarningOrExtension (some id) = .ok mayBeAny := by
    unfold Catalog.isWarningOrExtension
    rw [hentry]
    exact ⟨_, rfl⟩
  unfold setSeverity
  apply ends_get_bind
  apply ends_bind_of_ok (perform_ofExcept_eq_ok.mpr ⟨hentry, rfl⟩)
  apply ends_bind_of_ok (perform_ofExcept_eq_ok.mpr ⟨hmay, rfl⟩)
  apply ends_ite
  · intro hbelow
    apply ends_throw
    apply hrefused
    rintro ⟨_, mayBeAny', -, hmay', hallowed⟩
    rw [hmay, Except.ok.injEq] at hmay'
    subst hmay'
    exact hallowed hbelow
  · intro hallowed
    apply ends_get_bind
    apply ends_ite
    · intro hnone
      simp only [Bool.and_eq_true, Option.isNone_iff_eq_none] at hnone
      exact ends_throw (hunserved hnone.1 hnone.2)
    · intro _
      apply ends_bind
      apply ends_mappingAt hentry hlook
      intro base e₁ hperf current
      apply ends_bind
      apply ends_bind
      refine (hown base e₁ hperf).imp (fun ref e₂ hok => ?_) fun _ _ h => h
      exact ends_modify (ends_modify (hok _ _))

/-- The first change in a place leaves it ready, or it fails and has changed nothing. -/
theorem Whole.ends_setSeverity (h : e.Whole) (ho : ∀ l, place = some l → 0 ≤ l.offset)
    (hentry : e.catalog.entry (some id) = .ok entry) :
    Ends (setSeverity id severity place) e (fun _ e' => Ready e.catalog place e') fun _ e' =>
      Unmapped place e e' := by
  apply Engine.ends_setSeverity hentry
  · intro _
    exact Unmapped.refl place e
  · intro _ _
    exact Unmapped.refl place e
  · intro fault e₁ hlook
    rw [h.policyAt_error ho hlook]
    exact Unmapped.refl place e
  · intro base e₁ hlook
    rw [ends_iff]
    constructor
    · intro ref e₂ hown f outlet
      have hwhole := h.of_policyAt hlook
      have hcatalog := (ownPolicy_unmoved hown).1.catalog.trans (policyAt_unmoved hlook).1.catalog
      rw [← hcatalog]
      exact (granted_of_ownPolicy hwhole hown).ready (hwhole.of_ownPolicy hown) f outlet
    · intro fault e₂ hown
      exact h.ownPolicy_error ho hlook hown

/-- Changes in a place that is ready are refused only because of the class of the diagnostic. -/
theorem Ready.ends_setSeverity (h : Ready catalog place e)
    (hentry : catalog.entry (some id) = .ok entry) :
    Ends (setSeverity id severity place) e (fun _ e' => Ready catalog place e') fun fault e' =>
      e' = e ∧ ¬catalog.Permits id severity ∧
        fault = .ofDefect (.errorMappedBelow entry.name.display severity) := by
  obtain rfl := h.catalog
  obtain ⟨ref, hfound⟩ := h.found
  obtain ⟨ref', e₁, hown⟩ := h.own
  apply Engine.ends_setSeverity hentry
  · intro hrefused
    exact ⟨rfl, hrefused, rfl⟩
  · intro hsome hnone
    exact absurd hnone (h.served hsome)
  · intro fault e₂ hlook
    rw [hfound] at hlook
    cases hlook
  · intro base e₂ hlook
    rw [hfound] at hlook
    cases hlook
    unfold Ends
    rw [hown]
    intro f outlet
    rw [← (ownPolicy_unmoved hown).1.catalog]
    exact (granted_of_ownPolicy h.whole hown).ready (h.whole.of_ownPolicy hown) f outlet

/-! ## Changing all members -/

/-- A change that succeeded found a policy in its place. -/
theorem exists_found (hentry : e.catalog.entry (some id) = .ok entry)
    (hperf : (setSeverity id severity place).perform e = (.ok (), e')) :
    ∃ value, e.found place = .ok value := by
  have hends : Ends (setSeverity id severity place) e (fun _ _ => ∃ value, e.found place = .ok value)
      fun _ _ => True := by
    refine Engine.ends_setSeverity hentry (fun _ => trivial) (fun _ _ => trivial)
      (fun _ _ _ => trivial) fun base e₁ hlook => ?_
    rw [ends_iff]
    exact ⟨fun _ _ _ _ _ => ⟨_, found_eq hlook⟩, fun _ _ _ => trivial⟩
  exact hends.of_ok hperf

/-- The diagnostics that were changed are mapped. -/
theorem mapped_of_setSeverities (h : e.Whole) (hvalue : e.found place = .ok value)
    (hids : ∀ id ∈ ids, ∃ entry, e.catalog.entry (some id) = .ok entry)
    (hperf : (setSeverities ids severity place).perform e = (.ok (), e')) :
    Mapped ids severity place e e' := by
  have happlies := applies_found e.catalog place
  obtain ⟨-, hcatalog, hafter⟩ := forM_ok (R := fun value e₁ =>
      e₁.Whole ∧ e₁.catalog = e.catalog ∧ e₁.found place = .ok value)
    (fun id value e₁ e₂ he₁ hset => happlies.setSeverity he₁ hset) ids ⟨h, rfl, hvalue⟩ hperf
  exact mapped_of_found hids hcatalog hvalue hafter

/-- Every diagnostic is mapped as before at all locations, and without one as well, unless it is mapped
there as at the location of the change. -/
structure Spared (place : Option Location) (e e' : Engine) : Prop where
  located : ∀ id l, e'.mappingFound id (some l) = e.mappingFound id (some l)
  current : (∀ id, e'.mappingFound id none = e.mappingFound id none) ∨
    ∃ l, place = some l ∧ ∀ id, e'.mappingFound id none = e.mappingFound id (some l)

/-- If nothing was mapped, every diagnostic is spared. -/
theorem Unmapped.spared (h : Unmapped place e e') : Spared place e e' := by
  constructor
  · intro id l
    rw [mappingFound_eq, mappingFound_eq, h.located, h.catalog]
  · refine h.current.imp (fun hsame id => ?_) fun ⟨l, hl, hmoved⟩ => ⟨l, hl, fun id => ?_⟩
    · rw [mappingFound_eq, mappingFound_eq, hsame, h.catalog]
    · rw [mappingFound_eq, mappingFound_eq, hmoved, h.catalog]

/-- Some diagnostics were mapped to a level, up to one that may not be mapped to it. -/
def CutShort (ids : List Int) (severity : Severity) (place : Option Location) (e : Engine)
    (fault : Fault) (e' : Engine) : Prop :=
  ∃ mapped id rest entry, mapped ≠ [] ∧ ids = mapped ++ id :: rest ∧
    e.catalog.entry (some id) = .ok entry ∧ ¬e.catalog.Permits id severity ∧
      fault = .ofDefect (.errorMappedBelow entry.name.display severity) ∧
        Mapped mapped severity place e e'

/-- Several diagnostics are changed as a whole, or not at all, or up to one that may not be mapped to the
level. -/
theorem Whole.ends_setSeverities (h : e.Whole) (ho : ∀ l, place = some l → 0 ≤ l.offset)
    (hids : ∀ id ∈ ids, ∃ entry, e.catalog.entry (some id) = .ok entry) (hne : ids ≠ []) :
    Ends (setSeverities ids severity place) e (fun _ e' => Mapped ids severity place e e')
      fun fault e' => Spared place e e' ∨ CutShort ids severity place e fault e' := by
  obtain ⟨first, rest, rfl⟩ := List.exists_cons_of_ne_nil hne
  obtain ⟨entry, hentry⟩ := hids first List.mem_cons_self
  have hfirst : Ends (setSeverity first severity place) e (fun _ e' => Ready e.catalog place e')
      fun _ e' => Unmapped place e e' := h.ends_setSeverity ho hentry
  -- Only the first one may be refused for its place; then nothing was mapped.
  rcases hperf : (setSeverity first severity place).perform e with ⟨fault | _, e₁⟩
  · have hstop : (setSeverities (first :: rest) severity place).perform e = (.error fault, e₁) :=
      perform_bind_of_error hperf
    unfold Ends
    rw [hstop]
    exact .inl (hfirst.of_error hperf).spared
  · obtain ⟨value, hvalue⟩ := exists_found hentry hperf
    -- From the second one on, a diagnostic can only be refused for its level.
    have hrest : Ends (rest.forM fun id => setSeverity id severity place) e₁
        (fun _ => Ready e.catalog place) fun fault e' => ∃ done id later, rest = done ++ id :: later ∧
          (done.forM fun id => setSeverity id severity place).perform e₁ = (.ok (), e') ∧
            ∃ entry, e.catalog.entry (some id) = .ok entry ∧ ¬e.catalog.Permits id severity ∧
              fault = .ofDefect (.errorMappedBelow entry.name.display severity) := by
      refine ends_forM (fun id hid s hs => ?_) (hfirst.of_ok hperf)
      obtain ⟨entry, hentry⟩ := hids id (List.mem_cons_of_mem _ hid)
      exact (hs.ends_setSeverity hentry).imp (fun _ _ h => h) fun _ _ ⟨hsame, hrefused, hfault⟩ =>
        ⟨hsame, entry, hentry, hrefused, hfault⟩
    rw [ends_iff]
    constructor
    · intro _ e' hdone
      exact mapped_of_setSeverities h hvalue hids hdone
    · intro fault e' hfailed
      have hfailed' := (perform_bind_of_ok hperf).symm.trans hfailed
      obtain ⟨done, id, later, rfl, hdone, entry, hentry, hrefused, hfault⟩ := hrest.of_error hfailed'
      refine .inr ⟨first :: done, id, later, entry, by simp, rfl, hentry, hrefused, hfault, ?_⟩
      refine mapped_of_setSeverities h hvalue (fun i hi => hids i ?_)
        ((perform_bind_of_ok hperf).trans hdone)
      rw [← List.cons_append]
      exact List.mem_append_left _ hi

/-! ## Changing a group -/

/-- In every engine that calls lead to, failing ones included, a call that changes a group, at a location
or without one, ends in one of four ways. If it succeeds, all diagnostics of the flavor in the group and
below it are mapped, and no other one is mapped differently there. If the group has no members, no mapping
is different. If it fails, all mappings are as before, except that without a location those at the location
of the call may be current; or the members in front of an error or a note, which may not be mapped to the
level, are mapped. -/
theorem group_changed_or_cutShort {depth : Nat} {front : FrontEnd} (hfront : front.Acts depth)
    (he : Attained front e) (hw : FileTable.WellPlaced e.files.newestFirst) (flavor : Flavor)
    (group : Scalar) (severity : Severity) (ho : ∀ l, place = some l → 0 ≤ l.offset) :
    Ends (setGroup flavor group severity place) e
      (fun
        | true, e' => ∃ ids, e.catalog.members flavor group = .ok ids ∧
            (∀ entry, e.catalog.IsMember flavor group entry → entry.id ∈ ids) ∧
              Mapped ids severity place e e'
        | false, e' => ∀ id place, e'.mappingFound id place = e.mappingFound id place)
      fun fault e' => Spared place e e' ∨ ∃ ids, e.catalog.members flavor group = .ok ids ∧
        CutShort ids severity place e fault e' := by
  have hwhole := whole_of_attained hfront he hw
  have hlogged : ∀ outlet id place', mappingFound { e with outlet } id place' =
      e.mappingFound id place' := by
    intro outlet id place'
    rw [mappingFound_eq, mappingFound_eq, found_log]
  unfold setGroup groupMembers
  apply ends_bind
  apply ends_get_bind
  split
  · rename_i ids hids
    have hknown : ∀ id ∈ ids, ∃ entry, e.catalog.entry (some id) = .ok entry := by
      intro id hid
      have hmem : id ∈ e.catalog.membersOrNone flavor group := by
        unfold Catalog.membersOrNone
        rwa [hids]
      exact Catalog.entry_of_mem_members hmem
    apply ends_pure
    dsimp only
    apply ends_bind
    refine (hwhole.ends_setSeverities ho hknown (Catalog.members_ne_nil hids)).imp (fun _ e' hmapped => ?_) ?_
    · exact ends_pure ⟨ids, hids, fun _ => Catalog.mem_members hids, hmapped⟩
    · intro fault e' hfailed
      exact hfailed.imp_right fun hcut => ⟨ids, hids, hcut⟩
  · exact hlogged _
  · exact hlogged _
  · exact ends_throw (.inl (Unmapped.refl place e).spared)

/-! ## A group of two classes -/

/-- An engine with a group that has a warning and an error. -/
def mixed : Engine :=
  start { oneFile with catalog := ⟨[Catalog.builtin,
    ⟨2, .text "warn_unused_var", .string "unused variable %0", .warning, .warning, [.text "unused"]⟩,
    ⟨3, .text "err_unused", .string "unused", .error, .error, [.text "unused"]⟩],
    [(.text "unused", [])]⟩ }

/-- The group has a warning and an error. -/
theorem members_mixed : mixed.catalog.members .warningOrError (.text "unused") = .ok [2, 3] := by
  cbv

/-- Ignoring the group fails at the error, once the warning is mapped. -/
theorem setGroup_mixed : ∀ place ∈ [none, some ⟨1, 5⟩], ∃ e',
    (setGroup .warningOrError (.text "unused") .ignored place).perform mixed =
        (.error (.ofDefect (.errorMappedBelow "err_unused" .ignored)), e') ∧
      (e'.mappingFound (some 2) place).toOption ≠ (mixed.mappingFound (some 2) place).toOption := by
  have hgroup : ∀ place, (setGroup .warningOrError (.text "unused") .ignored place).perform mixed =
      (do setSeverities [2, 3] .ignored place; return true : Action Engine Bool).perform mixed := by
    intro place
    unfold setGroup groupMembers
    simp only [bind_assoc]
    rw [perform_get_bind, members_mixed]
    rfl
  intro place hplace
  rw [hgroup]
  simp only [List.mem_cons, List.not_mem_nil, or_false] at hplace
  rcases hplace with rfl | rfl
  · exact ⟨_, rfl, by decide⟩
  · exact ⟨_, rfl, by decide⟩

/-- The call is cut short at a location in the file. -/
theorem mixed_cutShort : FrontEnd.Acts 0 quotingFront ∧ Attained quotingFront mixed ∧
    FileTable.WellPlaced mixed.files.newestFirst ∧ ∃ e',
      (setGroup .warningOrError (.text "unused") .ignored (some ⟨1, 5⟩)).perform mixed =
          (.error (.ofDefect (.errorMappedBelow "err_unused" .ignored)), e') ∧
        CutShort [2, 3] .ignored (some ⟨1, 5⟩) mixed
          (.ofDefect (.errorMappedBelow "err_unused" .ignored)) e' := by
  have hattained : Attained quotingFront mixed := ⟨_, .refl⟩
  have hplaced : FileTable.WellPlaced mixed.files.newestFirst := by
    refine ⟨?_, trivial⟩
    rintro loc ⟨⟩
  obtain ⟨e', hperf, hdiffers⟩ := setGroup_mixed (some ⟨1, 5⟩) (by simp)
  refine ⟨acts_quotingFront 0, hattained, hplaced, e', hperf, ?_⟩
  have ho : ∀ l, some (⟨1, 5⟩ : Location) = some l → 0 ≤ l.offset := by
    rintro l ⟨⟩
    decide
  have hends := group_changed_or_cutShort (acts_quotingFront 0) hattained hplaced .warningOrError
    (.text "unused") .ignored ho
  rcases hends.of_error hperf with hspared | ⟨ids, hids, hcut⟩
  · rw [hspared.located] at hdiffers
    exact absurd rfl hdiffers
  · rw [members_mixed, Except.ok.injEq] at hids
    subst hids
    exact hcut

/-- Not every call on a group is all or nothing: this one raises, and the warning of the group is mapped
differently. -/
theorem group_changed_in_part : ∃ e e' fault, Attained quotingFront e ∧
    (setGroup .warningOrError (.text "unused") .ignored none).perform e = (.error fault, e') ∧
      e'.mappingFound (some 2) none ≠ e.mappingFound (some 2) none := by
  obtain ⟨e', hperf, hdiffers⟩ := setGroup_mixed none (by simp)
  refine ⟨mixed, e', _, ⟨_, .refl⟩, hperf, fun hsame => hdiffers ?_⟩
  rw [hsame]

end Engine

end Diagnostics
