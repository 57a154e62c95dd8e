import Diagnostics.Proofs.Engine.Machine

/-!
# What changes ask for

A change at a location asks for a level for some diagnostics, or for a toggle, or for the level that
extensions are raised to. `Change.Effect` says what it makes of a policy, mapping by mapping: the
diagnostics it is about are mapped as was asked for, and everything else stays. A diagnostic that is in a
group more than once is mapped as if it were there once, since asking twice for the same is asking once.
-/

set_option autoImplicit false

namespace Diagnostics

/-! ## Tables of mappings -/

namespace Policy

/-- Only the diagnostic that is set is mapped differently. -/
theorem lookup_setIn (id : Int) (mapping : Mapping) (entries : List (Int × Mapping)) (i : Int) :
    (setIn id mapping entries).lookup i = if i = id then some mapping else entries.lookup i := by
  induction entries with
  | nil =>
    by_cases hi : i = id
    · simp [setIn, hi]
    · have hbeq : (i == id) = false := by simpa using hi
      simp [setIn, List.lookup_cons, hbeq, hi]
  | cons entry rest ih =>
    obtain ⟨key, old⟩ := entry
    unfold setIn
    by_cases hk : key = id
    · subst hk
      by_cases hi : i = key
      · simp [hi]
      · have hbeq : (i == key) = false := by simpa using hi
        simp [List.lookup_cons, hbeq, hi]
    · rw [if_neg hk, List.lookup_cons, List.lookup_cons, ih]
      by_cases hi : i = id
      · subst hi
        have hbeq : (i == key) = false := by simpa using fun h => hk h.symm
        simp [hbeq]
      · simp [hi]

/-- Mapping a diagnostic leaves the other ones alone. -/
@[simp]
theorem get?_set (policy : Policy) (id : Int) (mapping : Mapping) (i : Int) :
    (policy.set id mapping).get? i = if i = id then some mapping else policy.get? i :=
  lookup_setIn id mapping policy.mappings i

variable {policy : Policy} {catalog : Catalog} {f : Mapping → Mapping} {id i : Int}
  {mapping : Mapping}

/-- A mapping that was set is what the diagnostic is mapped to. -/
theorem mappingOf_of_get? (h : policy.get? id = some mapping) :
    policy.mappingOf catalog (some id) = .ok mapping := by
  unfold mappingOf
  rw [show (some id : Option Int).bind policy.get? = _ from h]

/-- Policies with the same entry for a diagnostic map it in the same way. -/
theorem mappingOf_congr {policy' : Policy} (h : policy'.get? id = policy.get? id) :
    policy'.mappingOf catalog (some id) = policy.mappingOf catalog (some id) := by
  unfold mappingOf
  rw [show (some id : Option Int).bind policy'.get? = policy.get? id from h]
  rfl

/-- A diagnostic that the catalog knows has a mapping. -/
theorem exists_mappingOf (policy : Policy)
    (h : ∃ entry, catalog.entry (some id) = .ok entry) :
    ∃ mapping, policy.mappingOf catalog (some id) = .ok mapping := by
  obtain ⟨entry, hentry⟩ := h
  unfold mappingOf
  split
  · exact ⟨_, rfl⟩
  · unfold Catalog.defaultMapping
    rw [hentry]
    exact ⟨_, rfl⟩

/-- A diagnostic is mapped to what is made of its mapping, if it has one. -/
theorem remap_of_ok (h : policy.mappingOf catalog (some id) = .ok mapping) :
    policy.remap catalog f id = policy.set id (f mapping) := by
  unfold remap
  rw [h]

end Policy

/-! ## Requests -/

/-- A mapping answers a request for a level at a location, given what the diagnostic was mapped to: it is
as was asked for, but a warning does not weaken an error, and exemptions from promotion stay. -/
structure Mapping.Answers (level : Severity) (old new : Mapping) : Prop where
  isUser : new.isUser = true
  isPragma : new.isPragma = true
  severity : new.severity = if level = .warning ∧ .error ≤ old.severity then old.severity else level
  upgraded : new.upgradedFromWarning = true ↔ level = .warning ∧ .error ≤ old.severity
  noWarningAsError : new.noWarningAsError = old.noWarningAsError
  noErrorAsFatal : new.noErrorAsFatal = old.noErrorAsFatal

/-- The mapping that is requested answers the request. -/
theorem answers_requestedMapping (level : Severity) (old : Mapping) :
    Mapping.Answers level old (Engine.requestedMapping old level true) := by
  refine ⟨rfl, rfl, ?_, ?_, rfl, rfl⟩ <;> simp [Engine.requestedMapping, Mapping.requested]

/-- An answer to an answer is an answer: asking once more for the same level changes nothing. -/
theorem Mapping.Answers.again {level : Severity} {old mid new : Mapping}
    (h : Mapping.Answers level old mid) (h' : Mapping.Answers level mid new) :
    Mapping.Answers level old new := by
  have hsame : (level = .warning ∧ .error ≤ mid.severity) ↔
      (level = .warning ∧ .error ≤ old.severity) := by
    rw [h.severity]
    by_cases hup : level = .warning ∧ .error ≤ old.severity
    · rw [if_pos hup]
    · rw [if_neg hup]
      refine iff_of_false ?_ hup
      rintro ⟨rfl, hle⟩
      exact absurd hle (by decide)
  refine ⟨h'.isUser, h'.isPragma, ?_, h'.upgraded.trans hsame,
    h'.noWarningAsError.trans h.noWarningAsError, h'.noErrorAsFatal.trans h.noErrorAsFatal⟩
  rw [h'.severity, h.severity]
  by_cases hup : level = .warning ∧ .error ≤ old.severity
  · rw [if_pos hup, if_pos hup]
  · rw [if_neg hup]
    exact ite_self level

/-- The diagnostics that a request is about are mapped as was asked for, and nothing else changes. -/
structure Policy.Remapped (catalog : Catalog) (level : Severity) (ids : List Int)
    (old new : Policy) : Prop where
  toggles : new.toggles = old.toggles
  extensionBehavior : new.extensionBehavior = old.extensionBehavior
  others : ∀ id, id ∉ ids → new.get? id = old.get? id
  targets : ∀ id ∈ ids, ∃ before after, old.mappingOf catalog (some id) = .ok before ∧
    new.get? id = some after ∧ Mapping.Answers level before after

/-- What a change at a location makes of the policy in effect there. -/
def Change.Effect (catalog : Catalog) : Change → Policy → Policy → Prop
  | severity id level => Policy.Remapped catalog level [id]
  | group flavor name level => Policy.Remapped catalog level (catalog.membersOrNone flavor name)
  | all flavor level => Policy.Remapped catalog level (catalog.adjustable flavor)
  | toggle which value => fun old new => new = { old with toggles := which.put value old.toggles }
  | extension level => fun old new => new = { old with extensionBehavior := level }

variable {catalog : Catalog} {level : Severity} {answer : Mapping → Mapping}

/-- Mapping known diagnostics one after the other, some of them perhaps repeatedly. -/
theorem remapped_remapAll (hanswer : ∀ old, Mapping.Answers level old (answer old)) (policy : Policy)
    {ids : List Int} (hids : ∀ id ∈ ids, ∃ entry, catalog.entry (some id) = .ok entry) :
    Policy.Remapped catalog level ids policy (policy.remapAll catalog answer ids) := by
  induction ids generalizing policy with
  | nil => exact ⟨rfl, rfl, fun _ _ => rfl, fun _ h => absurd h (by simp)⟩
  | cons id ids ih =>
    obtain ⟨mapping, hmapping⟩ := policy.exists_mappingOf (hids id List.mem_cons_self)
    have hfirst : policy.remap catalog answer id = policy.set id (answer mapping) :=
      Policy.remap_of_ok hmapping
    have hrest := ih (policy.remap catalog answer id) fun i hi => hids i (List.mem_cons_of_mem _ hi)
    rw [show policy.remapAll catalog answer (id :: ids) =
      (policy.remap catalog answer id).remapAll catalog answer ids from rfl]
    rw [hfirst] at hrest ⊢
    have hself : (policy.set id (answer mapping)).get? id = some (answer mapping) := by simp
    have hother : ∀ i, i ≠ id → (policy.set id (answer mapping)).get? i = policy.get? i := by
      intro i hi
      simp [hi]
    refine ⟨hrest.toggles, hrest.extensionBehavior, fun i hi => ?_, fun i hi => ?_⟩
    · rw [List.mem_cons, not_or] at hi
      rw [hrest.others i hi.2, hother i hi.1]
    · by_cases hmem : i ∈ ids
      · obtain ⟨before, after, hbefore, hafter, hanswers⟩ := hrest.targets i hmem
        by_cases hi' : i = id
        · -- The second request finds the answer to the first one.
          subst hi'
          rw [Policy.mappingOf_of_get? hself, Except.ok.injEq] at hbefore
          subst hbefore
          exact ⟨mapping, after, hmapping, hafter, (hanswer mapping).again hanswers⟩
        · rw [Policy.mappingOf_congr (hother i hi')] at hbefore
          exact ⟨before, after, hbefore, hafter, hanswers⟩
      · obtain rfl : i = id := (List.mem_cons.mp hi).resolve_right hmem
        refine ⟨mapping, _, hmapping, ?_, hanswer mapping⟩
        rw [hrest.others i hmem, hself]

/-! ## Diagnostics of a change -/

/-- An entry of a catalog is found by its number. -/
theorem Catalog.entry_of_mem {entry : CatalogEntry} (h : entry ∈ catalog.entries) :
    ∃ entry', catalog.entry (some entry.id) = .ok entry' := by
  have hfind : (catalog.find? entry.id).isSome = true := by
    unfold Catalog.find?
    rw [List.find?_isSome]
    exact ⟨entry, h, by simp⟩
  obtain ⟨entry', hentry'⟩ := Option.isSome_iff_exists.mp hfind
  refine ⟨entry', ?_⟩
  unfold Catalog.entry
  rw [show (some entry.id : Option Int).bind catalog.find? = _ from hentry']

/-- The members of a group are in the catalog. -/
theorem Catalog.entry_of_mem_members {flavor : Flavor} {name : Scalar} {id : Int}
    (h : id ∈ catalog.membersOrNone flavor name) : ∃ entry, catalog.entry (some id) = .ok entry := by
  unfold membersOrNone members at h
  split at h
  · rename_i ids hids
    split at hids
    · dsimp only at hids
      split at hids
      · cases hids
      · split at hids
        · cases hids
        · rw [Except.ok.injEq] at hids
          subst hids
          obtain ⟨entry, hentry, rfl⟩ := List.mem_map.mp h
          exact Catalog.entry_of_mem (List.mem_filter.mp hentry).1
    · cases hids
  · cases h

/-- A diagnostic that may be mapped to any level has an entry. -/
theorem Catalog.entry_of_mem_adjustable {flavor : Flavor} {id : Int}
    (h : id ∈ catalog.adjustable flavor) : ∃ entry, catalog.entry (some id) = .ok entry := by
  unfold adjustable allIds at h
  obtain ⟨entry, hentry, rfl⟩ := List.mem_map.mp (List.mem_filter.mp h).1
  exact Catalog.entry_of_mem (List.mem_filter.mp hentry).1

/-- The rule of a change has the effect that was asked for. -/
theorem Change.effect_apply {change : Change} (policy : Policy)
    (hid : ∀ id level, change = .severity id level → ∃ entry, catalog.entry (some id) = .ok entry) :
    change.Effect catalog policy (change.apply catalog true policy) := by
  cases change with
  | severity id level =>
    have hids : ∀ i ∈ [id], ∃ entry, catalog.entry (some i) = .ok entry := by
      intro i hi
      rw [List.mem_singleton.mp hi]
      exact hid id level rfl
    exact remapped_remapAll (answers_requestedMapping level) policy hids
  | group flavor name level =>
    exact remapped_remapAll (answers_requestedMapping level) policy fun _ hi =>
      Catalog.entry_of_mem_members hi
  | all flavor level =>
    exact remapped_remapAll (answers_requestedMapping level) policy fun _ hi =>
      Catalog.entry_of_mem_adjustable hi
  | toggle which value => rfl
  | extension level => rfl

/-- A change of a single diagnostic that does not fail is about one that the catalog knows. -/
theorem Change.entry_of_perform {change : Change} {loc : Option Location} {e e' : Engine}
    (hperf : (change.perform loc).perform e = (.ok (), e')) (id : Int) (level : Severity)
    (h : change = .severity id level) : ∃ entry, e.catalog.entry (some id) = .ok entry := by
  subst h
  have hset : (Engine.setSeverity id level loc).perform e = (.ok (), e') := hperf
  unfold Engine.setSeverity at hset
  rw [Action.perform_get_bind] at hset
  obtain ⟨entry, _, hentry, -⟩ := Action.perform_bind_eq_ok.mp hset
  exact ⟨entry, (Action.perform_ofExcept_eq_ok.mp hentry).1⟩

end Diagnostics
