import Diagnostics.Proofs.Engine.Histories
import Diagnostics.Proofs.Engine.Requests

/-!
# Pragmas that are accepted

A call at a location can fail: the diagnostic may be unknown, the request one that must not be made, or
the file may have a point behind the location. In an engine that follows a history there is no such
point, so that in source order it is only the catalog that decides whether a pragma is accepted.
-/

set_option autoImplicit false

namespace Diagnostics

open Diagnostics.Action

/-- A call that a pragma in the source makes: it maps one diagnostic, switches a toggle, or opens or
closes a scope. -/
def LocatedCall.IsPragma : LocatedCall → Prop
  | change (.severity _ _) => True
  | change (.toggle _ _) => True
  | change _ => False
  | push => True
  | pop => True

/-- A diagnostic may be mapped to a level: errors and notes can only be made errors. -/
def Catalog.Permits (catalog : Catalog) (id : Int) (level : Severity) : Prop :=
  ∃ entry mayBeAny, catalog.entry (some id) = .ok entry ∧
    catalog.isWarningOrExtension (some id) = .ok mayBeAny ∧
      ¬(!mayBeAny && level < .error) = true

/-- What a pragma asks for may be asked for. -/
def LocatedCall.IsPermitted (catalog : Catalog) : LocatedCall → Prop
  | change (.severity id level) => catalog.Permits id level
  | _ => True

namespace PolicyMap

variable {file bound offset : Int} {history : Int → Policy} {map : PolicyMap} {ref : PolicyRef}
  {table : FileTable} {source : SourceFile}

/-- At the end of a history an append does not fail. -/
theorem Marks.exists_append (h : Marks file bound history map) (hle : bound ≤ offset)
    (ho : 0 ≤ offset) (hs : FileTable.lookup table.newestFirst file = some source)
    (htop : source.includedAt = none) (ref : PolicyRef) :
    ∃ map', (PolicyMap.append .files table ⟨file, offset⟩ ref).perform map = (.ok (), map') := by
  obtain ⟨m, points, last, hent, -, -, -, hlast, hoff, -, -⟩ :=
    h.exists_enter hle ho hs htop ref ⟨file, offset⟩
  rw [perform_append hs hent hlast, if_neg (Int.not_lt.mpr hoff)]
  exact ⟨_, rfl⟩

end PolicyMap

namespace Engine

variable {catalog : Catalog} {file offset : Int} {history : Int → Policy}
  {saved : List Policy} {e e' : Engine} {ref : PolicyRef} {loc : Option Location}

/-! ## What a pragma that was accepted asks for -/

/-- What was set may be set. -/
theorem permits_of_setSeverity {id : Int} {level : Severity}
    (hperf : (setSeverity id level loc).perform e = (.ok (), e')) : e.catalog.Permits id level := by
  unfold setSeverity at hperf
  rw [perform_get_bind] at hperf
  obtain ⟨entry, e₁, hread, hperf₁⟩ := perform_bind_eq_ok.mp hperf
  obtain ⟨hentry, rfl⟩ := perform_ofExcept_eq_ok.mp hread
  obtain ⟨mayBeAny, e₂, hread', hperf₂⟩ := perform_bind_eq_ok.mp hperf₁
  obtain ⟨hmay, rfl⟩ := perform_ofExcept_eq_ok.mp hread'
  refine ⟨entry, mayBeAny, hentry, hmay, fun hrefused => ?_⟩
  rw [if_pos hrefused] at hperf₂
  cases hperf₂

/-- What was done may be asked for. -/
theorem isPermitted_of_perform {call : LocatedCall}
    (hperf : (call.perform loc).perform e = (.ok (), e')) : call.IsPermitted e.catalog := by
  match call, hperf with
  | .change (.severity id level), hperf => exact permits_of_setSeverity hperf
  | .change (.group ..), _ => trivial
  | .change (.all ..), _ => trivial
  | .change (.toggle ..), _ => trivial
  | .change (.extension ..), _ => trivial
  | .push, _ => trivial
  | .pop, _ => trivial

/-! ## At the end of a history -/

/-- Behind all changes a further one is recorded. -/
theorem Follows.exists_append (h : Follows catalog file offset history saved e) (ho : 0 ≤ offset)
    (ref : PolicyRef) :
    ∃ map, (onPolicies (PolicyMap.append .files e.files ⟨file, offset⟩ ref)).perform e =
      (.ok (), { e with policies := map }) := by
  obtain ⟨source, hs, htop⟩ := h.topLevel
  obtain ⟨map, happend⟩ := h.marks.exists_append (Int.le_refl _) ho hs htop ref
  refine ⟨map, ?_⟩
  unfold onPolicies
  rw [perform_onPart, happend]

/-- Behind all changes a private policy is found. -/
theorem Follows.exists_ownAt (h : Follows catalog file offset history saved e) (ho : 0 ≤ offset) :
    ∃ ref e', (Engine.ownAt ⟨file, offset⟩).perform e = (.ok ref, e') := by
  obtain ⟨base, hbase, -, -⟩ := h.policyAt_bound ho
  unfold Engine.ownAt
  rw [perform_get_bind, h.locations, perform_bind_of_ok hbase, perform_get_bind]
  dsimp only
  split
  · exact ⟨base, e, rfl⟩
  · obtain ⟨map, happend⟩ := (h.copied base).exists_append ho e.policies.store.size
    rw [perform_bind_of_ok (perform_copyPolicy base e), perform_get_bind, perform_bind_of_ok happend]
    exact ⟨_, _, rfl⟩

/-- Behind all changes an edit succeeds. -/
theorem Follows.exists_changePolicy (h : Follows catalog file offset history saved e)
    (ho : 0 ≤ offset) (f : Policy → Policy) :
    ∃ e', (changePolicy (some ⟨file, offset⟩) f).perform e = (.ok (), e') := by
  obtain ⟨ref, e₁, hown⟩ := h.exists_ownAt ho
  unfold changePolicy
  rw [perform_bind_of_ok (show (ownPolicy (some ⟨file, offset⟩)).perform e = _ from hown)]
  exact ⟨_, rfl⟩

/-- Behind all changes a severity that may be set is set. -/
theorem Follows.exists_setSeverity (h : Follows catalog file offset history saved e)
    (ho : 0 ≤ offset) {id : Int} {level : Severity} (hpermits : catalog.Permits id level) :
    ∃ e', (setSeverity id level (some ⟨file, offset⟩)).perform e = (.ok (), e') := by
  obtain ⟨entry, mayBeAny, hentry, hmay, hallowed⟩ := hpermits
  obtain ⟨base, hbase, -, -⟩ := h.policyAt_bound ho
  obtain ⟨mapping, hmapping⟩ := (e.policies.policyOf base).exists_mappingOf ⟨entry, hentry⟩
  have hfound : (mappingAt (some id) (some ⟨file, offset⟩)).perform e = (.ok mapping, e) := by
    unfold mappingAt
    rw [perform_bind_of_ok hbase, perform_bind_of_ok (perform_readPolicy base e), perform_get_bind,
      perform_ofExcept_eq_ok, h.catalog]
    exact ⟨hmapping, rfl⟩
  obtain ⟨e₁, hchange⟩ := h.exists_changePolicy ho fun policy =>
    policy.set id (requestedMapping mapping level true)
  unfold setSeverity
  rw [perform_get_bind, h.catalog, perform_bind_of_ok (perform_ofExcept_eq_ok.mpr ⟨hentry, rfl⟩),
    perform_bind_of_ok (perform_ofExcept_eq_ok.mpr ⟨hmay, rfl⟩), if_neg hallowed, perform_get_bind,
    if_neg (by simp [h.locations]), perform_bind_of_ok hfound]
  exact ⟨_, (perform_bind_of_ok hchange).trans rfl⟩

/-- Behind all changes a scope can be closed. -/
theorem Follows.exists_popScope (h : Follows catalog file offset history saved e)
    (ho : 0 ≤ offset) : ∃ closed e', (popScope (some ⟨file, offset⟩)).perform e = (.ok closed, e') := by
  cases hscopes : e.scopes with
  | nil =>
    obtain ⟨outlet, hpop⟩ := perform_popScope_nil hscopes (some ⟨file, offset⟩)
    exact ⟨_, _, hpop⟩
  | cons ref outer =>
    have hrestore : ∃ e₁, (restore ref (some ⟨file, offset⟩)).perform e = (.ok (), e₁) := by
      unfold restore
      rw [perform_get_bind]
      split
      · obtain ⟨map, happend⟩ := h.exists_append ho ref
        simp only [h.locations]
        exact ⟨_, happend⟩
      · exact ⟨_, rfl⟩
    obtain ⟨e₁, hrestore⟩ := hrestore
    unfold popScope
    rw [perform_get_bind, hscopes]
    dsimp only
    rw [perform_bind_of_ok hrestore]
    exact ⟨_, _, rfl⟩

/-- In source order, pragmas that ask for what may be asked for are accepted. -/
theorem Follows.exists_pragma (h : Follows catalog file offset history saved e) (ho : 0 ≤ offset)
    {call : LocatedCall} (hpragma : call.IsPragma) (hpermitted : call.IsPermitted catalog) :
    ∃ e', (call.perform (some ⟨file, offset⟩)).perform e = (.ok (), e') := by
  match call, hpragma, hpermitted with
  | .change (.severity id level), _, hpermits => exact h.exists_setSeverity ho hpermits
  | .change (.toggle which value), _, _ => exact h.exists_changePolicy ho _
  | .push, _, _ =>
    obtain ⟨ref, -, hcur, -⟩ := h.policyAt_bound ho
    obtain ⟨outlet, hpush⟩ := perform_pushScope hcur (some ⟨file, offset⟩)
    exact ⟨_, hpush⟩
  | .pop, _, _ =>
    obtain ⟨closed, e₁, hpop⟩ := h.exists_popScope ho
    exact ⟨e₁, perform_bind_of_ok hpop⟩

end Engine

end Diagnostics
