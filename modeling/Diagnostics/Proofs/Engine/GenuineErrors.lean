import Diagnostics.Proofs.Engine.Requests
import Diagnostics.Proofs.Engine.Throughout

/-!
# Errors stay errors

An error of the catalog that is one by default cannot be mapped to anything weaker. Six kinds of calls
write mappings, and each of them either asks for an error at least or takes a fatal error back to an
error, so that no policy maps such a diagnostic below an error; `Policy.Firm` says this of one policy,
and a bulk call that stops half way leaves firm policies as well.

The toggles do not change that: none of them wakes up, raises or silences a diagnostic of this kind. So
its level is an error or a fatal error at every location, in every state of the engine.
-/

set_option autoImplicit false

namespace Diagnostics

open Diagnostics.Action

/-- A diagnostic of class error that is an error by default. -/
structure CatalogEntry.IsGenuineError (entry : CatalogEntry) : Prop where
  diagClass : entry.diagClass = .error
  severity : .error ≤ entry.severity

/-- An error or worse is an error or fatal. -/
theorem Severity.error_le_iff {level : Severity} :
    .error ≤ level ↔ level = .error ∨ level = .fatal := by
  cases level <;> decide

variable {catalog : Catalog} {policy : Policy} {entry : CatalogEntry} {mapping : Mapping} {id : Int}

/-! ## Policies -/

namespace Policy

/-- No genuine error is mapped below an error. -/
def Firm (catalog : Catalog) (policy : Policy) : Prop :=
  ∀ id entry mapping, catalog.entry (some id) = .ok entry → entry.IsGenuineError →
    policy.get? id = some mapping → .error ≤ mapping.severity

/-- The initial policy maps nothing. -/
theorem firm_initialPolicy (catalog : Catalog) (context : Context) :
    (Engine.initialPolicy context).Firm catalog := by
  rintro _ _ _ _ _ ⟨⟩

/-- A mapping that keeps genuine errors may be set. -/
theorem Firm.set (h : policy.Firm catalog)
    (hmapping : ∀ entry, catalog.entry (some id) = .ok entry → entry.IsGenuineError →
      .error ≤ mapping.severity) : (policy.set id mapping).Firm catalog := by
  intro i entry found hentry herror hfound
  rw [get?_set] at hfound
  split at hfound
  · rename_i heq
    subst heq
    cases hfound
    exact hmapping entry hentry herror
  · exact h i entry found hentry herror hfound

/-- A genuine error has a mapping to an error at least, its own one or the default. -/
theorem Firm.error_le (h : policy.Firm catalog) (hentry : catalog.entry (some id) = .ok entry)
    (herror : entry.IsGenuineError) (hm : policy.mappingOf catalog (some id) = .ok mapping) :
    .error ≤ mapping.severity := by
  unfold mappingOf at hm
  split at hm
  · rename_i found hfound
    cases hm
    exact h id entry mapping hentry herror hfound
  · unfold Catalog.defaultMapping at hm
    rw [hentry] at hm
    cases hm
    exact herror.severity

/-- The toggles of a policy do not weaken an error. -/
theorem error_le_promote (policy : Policy) (mapping : Mapping) {level : Severity}
    (h : .error ≤ level) : .error ≤ policy.promote mapping level := by
  have hne : level ≠ .warning := by
    rintro rfl
    exact absurd h (by decide)
  unfold promote
  simp only [hne, decide_false, Bool.false_and, Bool.false_eq_true, if_false]
  split
  · decide
  · exact h

/-- The toggles leave a genuine error that is mapped to an error at least where it is, or make it a
fatal error. -/
theorem error_le_level (policy : Policy) (herror : entry.IsGenuineError)
    (hm : .error ≤ mapping.severity) (silenced : Bool) :
    .error ≤ policy.level entry mapping silenced := by
  have hloud : mapping.severity ≠ .ignored := by
    intro h
    rw [h] at hm
    exact absurd hm (by decide)
  have hne : mapping.severity ≠ .warning := by
    intro h
    rw [h] at hm
    exact absurd hm (by decide)
  have hawake : policy.awaken entry mapping = mapping.severity := by
    unfold awaken
    rw [if_neg (by simp [hloud])]
  have hsilent : policy.silence entry mapping.severity = mapping.severity := by
    have hstrong : ¬entry.severity < .error := Nat.not_lt.mpr herror.severity
    unfold silence
    rw [if_neg (by simp [hne, hstrong])]
  have hpromoted := policy.error_le_promote mapping hm
  unfold level
  simpa [herror.diagClass, hawake, hsilent, hloud] using hpromoted

end Policy

/-! ## Requests -/

/-- A request for an error at least gives an error at least. -/
theorem Engine.error_le_requestedMapping {level : Severity} (hlevel : .error ≤ level)
    (current : Mapping) (isPragma : Bool) :
    .error ≤ (requestedMapping current level isPragma).severity := by
  have hne : level ≠ .warning := by
    rintro rfl
    exact absurd hlevel (by decide)
  simpa [requestedMapping, Mapping.requested, hne] using hlevel

/-- Only errors and fatal errors can be asked for where a genuine error is concerned. -/
theorem Catalog.error_le_of_allowed {level : Severity} {adjustable : Bool}
    (hentry : catalog.entry (some id) = .ok entry) (herror : entry.IsGenuineError)
    (hadjustable : catalog.isWarningOrExtension (some id) = .ok adjustable)
    (hallowed : ¬(!adjustable && level < .error) = true) : .error ≤ level := by
  unfold Catalog.isWarningOrExtension at hadjustable
  rw [hentry] at hadjustable
  have hfixed : adjustable = false := by
    rw [← Except.ok.inj hadjustable]
    simp [herror.diagClass]
  rw [hfixed] at hallowed
  have hnot : ¬level < .error := by simpa using hallowed
  exact Nat.not_lt.mp hnot

/-! ## Calls -/

namespace Engine

/-- No policy since the last reset maps a genuine error below an error. -/
def Firm : Engine → Prop :=
  Upholds Policy.Firm

variable {e e' : Engine} {loc : Option Location}

/-- Asking for a mapping leaves the catalog alone. -/
theorem mappingAt_catalog {id : Option Int} {mapping : Mapping}
    (hperf : (mappingAt id loc).perform e = (.ok mapping, e')) : e'.catalog = e.catalog := by
  unfold mappingAt at hperf
  obtain ⟨ref, e₁, hlook, hperf⟩ := perform_bind_eq_ok.mp hperf
  rw [perform_bind_of_ok (perform_readPolicy ref e₁), perform_get_bind,
    perform_ofExcept_eq_ok] at hperf
  rw [← hperf.2]
  exact (policyAt_unmoved hlook).1.catalog

/-- An edit that keeps genuine errors may be made anywhere. -/
theorem firm_changePolicy {f : Policy → Policy} (h : e.Firm)
    (hf : ∀ policy, policy.Firm e.catalog → (f policy).Firm e.catalog) :
    EndsIn true Firm e (changePolicy loc f) :=
  upholds_changePolicy h hf

/-- A severity that is set keeps genuine errors, or is refused. -/
theorem firm_setSeverity (id : Int) (level : Severity) (loc : Option Location) :
    Keeps true Firm (setSeverity id level loc) := by
  intro e h
  unfold Engine.setSeverity
  apply endsIn_get_bind
  refine endsIn_bind (endsIn_ofExcept _ h) fun entry e₁ hperf h₁ => ?_
  obtain ⟨hentry, rfl⟩ := perform_ofExcept_eq_ok.mp hperf
  refine endsIn_bind (endsIn_ofExcept _ h) fun adjustable e₂ hperf h₂ => ?_
  obtain ⟨hadjustable, rfl⟩ := perform_ofExcept_eq_ok.mp hperf
  split
  · exact endsIn_throw _ h
  · rename_i hallowed
    -- What follows the checks: the mapping is made of the current one and set.
    have hset : EndsIn true Firm e (do
        let current ← mappingAt (some id) loc
        let mapping := requestedMapping current level loc.isSome
        Engine.changePolicy loc fun policy => policy.set id mapping
        let place := (loc.map Location.describe).getD "<command line>"
        Engine.debug s!"{entry.name.display} -> {mapping.severity.spelling} at {place}") := by
      refine endsIn_bind (keeps_mappingAt (upholds_policyAt loc) _ e h) fun current e₁ hmapping h₁ => ?_
      have hfirm : ∀ policy : Policy, policy.Firm e₁.catalog →
          (policy.set id (requestedMapping current level loc.isSome)).Firm e₁.catalog := by
        intro policy hpolicy
        refine hpolicy.set fun entry' hentry' herror => ?_
        rw [mappingAt_catalog hmapping] at hentry'
        exact error_le_requestedMapping
          (Catalog.error_le_of_allowed hentry' herror hadjustable hallowed) _ _
      exact endsIn_bind (firm_changePolicy h₁ hfirm) fun _ e₂ _ h₂ => upholds_debug _ e₂ h₂
    apply endsIn_get_bind
    split
    · exact endsIn_throw _ h
    · exact hset

/-- A group that is set keeps genuine errors, or is refused at one of them. -/
theorem firm_setGroup (flavor : Flavor) (group : Scalar) (level : Severity) (loc : Option Location) :
    Keeps true Firm (setGroup flavor group level loc) :=
  keeps_setGroup upholds_debug (fun id => firm_setSeverity id level loc) flavor group

/-- Changes of any level for any diagnostics keep the policies firm. -/
theorem firm_change (change : Change) (loc : Option Location) :
    Keeps true Firm (change.perform loc) := by
  cases change with
  | severity id level => exact firm_setSeverity id level loc
  | group flavor name level =>
    exact keeps_bind (firm_setGroup flavor name level loc) fun _ => keeps_pure _
  | all flavor level =>
    exact keeps_bind (keeps_setAll (fun id => firm_setSeverity id level loc) flavor) fun _ =>
      keeps_pure _
  | toggle which value => exact fun e h => firm_changePolicy h fun _ hpolicy => hpolicy
  | extension level => exact fun e h => firm_changePolicy h fun _ hpolicy => hpolicy

/-- Rewriting a mapping in place keeps the policies firm if no error becomes less than one. -/
theorem firm_changeMapping {f : Mapping → Mapping}
    (hf : ∀ mapping : Mapping, .error ≤ mapping.severity → .error ≤ (f mapping).severity) (id : Int) :
    Keeps true Firm (changeMapping id f) := by
  intro e h
  unfold Engine.changeMapping
  refine endsIn_bind (upholds_ownCurrent e h) fun ref e₁ _ h₁ => ?_
  refine endsIn_bind_of_ok (perform_readPolicy ref e₁) (endsIn_get_bind ?_)
  refine endsIn_bind (endsIn_ofExcept _ h₁) fun mapping e₂ hperf _ => endsIn_modify ?_
  obtain ⟨hmapping, rfl⟩ := perform_ofExcept_eq_ok.mp hperf
  obtain ⟨base, h₁⟩ := h₁
  refine ⟨base, h₁.changed fun hb hlt => ?_⟩
  have hfirm := h₁.policy ref hb hlt
  exact hfirm.set fun entry hentry herror => hf mapping (hfirm.error_le hentry herror hmapping)

/-- A change of mappings that weakens no error may be made to a group. -/
theorem firm_changeGroup {f : Mapping → Mapping}
    (hf : ∀ mapping : Mapping, .error ≤ mapping.severity → .error ≤ (f mapping).severity)
    (group : Scalar) : Keeps true Firm (changeGroup group f) :=
  keeps_changeGroup upholds_debug (firm_changeMapping hf) group

/-- Warnings as errors, or as what they were, weaken no error. -/
theorem firm_groupWarningAsError (group : Scalar) (enabled : Bool) :
    Keeps true Firm (UnlocatedCall.groupWarningAsError group enabled).perform := by
  refine keeps_bind ?_ fun _ => keeps_pure _
  unfold setGroupWarningAsError
  refine keeps_ite (firm_setGroup _ group _ none) (firm_changeGroup ?_ group)
  exact fun mapping h => h

/-- A group that is taken back from fatal errors ends at errors. -/
theorem firm_groupErrorAsFatal (group : Scalar) (enabled : Bool) :
    Keeps true Firm (UnlocatedCall.groupErrorAsFatal group enabled).perform := by
  refine keeps_bind ?_ fun _ => keeps_pure _
  unfold setGroupErrorAsFatal
  refine keeps_ite (firm_setGroup _ group _ none) (firm_changeGroup (fun mapping h => ?_) group)
  dsimp only
  split
  · decide
  · exact h

/-- All calls keep the policies firm, whether they fail or not. -/
theorem lasting_firm : Lasting true Firm where
  apart h ha := h.apart ha
  look := upholds_policyAt
  change := firm_change
  groupWarningAsError := firm_groupWarningAsError
  groupErrorAsFatal := firm_groupErrorAsFatal
  push := upholds_pushScope
  pop := upholds_popScope
  addFile := upholds_addFile
  reset e _ := upholds_reset e (Policy.firm_initialPolicy _ _)

/-- No genuine error is weakened when an engine starts. -/
theorem firm_start (e : Engine) : e.start.Firm :=
  (upholds_reset e (Policy.firm_initialPolicy _ _)).of_total

/-! ## Levels -/

/-- How a level is resolved: by the policy that is found at the location. -/
theorem effectiveSeverity_ok {id : Option Int} {level : Severity}
    (hperf : (effectiveSeverity id loc).perform e = (.ok level, e')) :
    ∃ ref mapping entry, (policyAt loc).perform e = (.ok ref, e') ∧
      (e'.policies.policyOf ref).mappingOf e'.catalog id = .ok mapping ∧
      e'.catalog.entry id = .ok entry ∧
      level = (e'.policies.policyOf ref).level entry mapping (0 < e'.extensionsSilenced) := by
  unfold effectiveSeverity at hperf
  obtain ⟨ref, e₁, hlook, hread⟩ := perform_bind_eq_ok.mp hperf
  rw [perform_bind_of_ok (perform_readPolicy ref e₁), perform_get_bind] at hread
  obtain ⟨mapping, e₂, hmapped, hrest⟩ := perform_bind_eq_ok.mp hread
  obtain ⟨hmapping, rfl⟩ := perform_ofExcept_eq_ok.mp hmapped
  obtain ⟨entry, e₃, hknown, hlevel⟩ := perform_bind_eq_ok.mp hrest
  obtain ⟨hentry, rfl⟩ := perform_ofExcept_eq_ok.mp hknown
  cases hlevel
  exact ⟨ref, mapping, entry, hlook, hmapping, hentry, rfl⟩

/-- In every engine that calls lead to, failing ones included, a genuine error has the level of an error
or of a fatal error wherever its level can be resolved. -/
theorem error_of_genuine {depth : Nat} {front : FrontEnd} (hfront : front.Acts depth)
    (h : Attained front e) {id : Int} {entry : CatalogEntry}
    (hentry : e.catalog.entry (some id) = .ok entry) (hclass : entry.diagClass = .error)
    (hdefault : entry.severity = .error ∨ entry.severity = .fatal) {level : Severity}
    (hperf : (effectiveSeverity (some id) loc).perform e = (.ok level, e')) :
    level = .error ∨ level = .fatal := by
  have herror : entry.IsGenuineError := ⟨hclass, Severity.error_le_iff.mpr hdefault⟩
  obtain ⟨base, hfirm⟩ := lasting_firm.attained firm_start hfront h
  obtain ⟨ref, mapping, found, hlook, hmapping, hfound, rfl⟩ := effectiveSeverity_ok hperf
  -- The look-up finds a policy that was made since the last reset, in the same catalog.
  obtain ⟨hfirm', hb, hlt⟩ := hfirm.of_policyAt hlook
  rw [(policyAt_unmoved hlook).1.catalog, hentry, Except.ok.injEq] at hfound
  subst hfound
  rw [← (policyAt_unmoved hlook).1.catalog] at hentry
  have hle := (hfirm'.policy ref hb hlt).error_le hentry herror hmapping
  exact Severity.error_le_iff.mp (Policy.error_le_level _ herror hle _)

/-- The builtin diagnostic is mapped to an error, which a request for a warning does not weaken; warnings
are ignored further down in the file, and the last change is refused because it comes too late. -/
def lowered : Engine :=
  [PlainCall.unlocated (.call (.change (.severity 1 .error))),
    .unlocated (.call (.change (.severity 1 .warning))), .unlocated (.call .push),
    .located (.change (.toggle .ignoreAllWarnings true)) ⟨1, 5⟩,
    .located (.change (.severity 1 .fatal)) ⟨1, 2⟩].foldl
      (fun e call => (call.perform.perform e).2) oneFile.start

/-- The builtin diagnostic is still an error behind all these requests. -/
theorem error_of_lowered : FrontEnd.Acts 0 quotingFront ∧ Attained quotingFront lowered ∧
    lowered.catalog.entry (some 1) = .ok Catalog.builtin ∧
    ∃ level e', (effectiveSeverity (some 1) (some ⟨1, 8⟩)).perform lowered = (.ok level, e') ∧
      (level = .error ∨ level = .fatal) := by
  have hattained : Attained quotingFront lowered := Attained.calls ⟨oneFile, .refl⟩ _
  have hentry : lowered.catalog.entry (some 1) = .ok Catalog.builtin := rfl
  have hfatal : Catalog.builtin.severity = .error ∨ Catalog.builtin.severity = .fatal := .inr rfl
  obtain ⟨e', hperf⟩ : ∃ e', (effectiveSeverity (some 1) (some ⟨1, 8⟩)).perform lowered =
    (.ok .error, e') := ⟨_, rfl⟩
  exact ⟨acts_quotingFront 0, hattained, hentry, .error, e', hperf,
    error_of_genuine (acts_quotingFront 0) hattained hentry rfl hfatal hperf⟩

end Engine

end Diagnostics
