import Diagnostics.Proofs.Engine.Settled
import Diagnostics.Proofs.PolicyMap.Complete
import Diagnostics.Proofs.PolicyMap.InEffect

/-!
# Maps between calls

Between calls that do not fail, no file is half entered, and the location at which the current policy
was recorded is that of the last point of its file. All calls keep this, over a table of files with well
placed include points.

A change in place is made to a policy that was recorded right there and whose count is one at most.
Then the last point of that file is the only holder: `Alone` says that no other point has the policy,
that it is not the initial one and that no scope saved it.
-/

set_option autoImplicit false

namespace Diagnostics

open Diagnostics.Action

namespace PolicyMap

/-- The entries of a settled map are complete and belong to known files, and the location of the current
policy is that of the last point of its file. -/
structure Orderly (sources : List SourceFile) (base : Nat) (scopes : List PolicyRef)
    (map : PolicyMap) : Prop extends Settled base scopes map where
  formed : Formed sources map
  initial : ∃ ref, map.first = some ref
  known : ∀ id points, map.file? (some id) = some points →
    ∃ source, FileTable.lookup sources id = some source
  marked : ∀ loc, map.location = some loc → ∃ points last, map.file? (some loc.file) = some points ∧
    points.points.getLast? = some last ∧ last.offset = loc.offset

/-- The last point of a file is the only one that holds a policy. -/
structure Alone (file : Int) (ref : PolicyRef) (scopes : List PolicyRef) (map : PolicyMap) :
    Prop where
  others : ∀ key points, key ≠ some file → map.file? key = some points →
    ∀ p ∈ points.points, p.policy ≠ ref
  earlier : Sole file ref map
  first : map.first ≠ some ref
  scopes : ref ∉ scopes

variable {sources : List SourceFile} {table : FileTable} {base : Nat} {scopes : List PolicyRef}
  {map map' : PolicyMap} {loc : Location} {ref : PolicyRef} {service : LocationService}
  {points : FilePoints} {last : PolicyPoint}

/-- An orderly map is complete. -/
theorem Orderly.complete (h : Orderly sources base scopes map) : Complete sources map :=
  ⟨h.formed, h.initial, h.known⟩

/-! ## Changes of the store -/

/-- The store may change, and what is open, as long as the counts stay right. -/
theorem Orderly.withStore (h : Orderly sources base scopes map) {store : PolicyStore}
    {scopes' : List PolicyRef} (hs : Settled base scopes' { map with store }) :
    Orderly sources base scopes' { map with store } :=
  ⟨hs, ⟨h.formed.root, h.formed.entered⟩, h.initial, h.known, h.marked⟩

/-- A copy in the store keeps a map orderly. -/
theorem Orderly.copied (h : Orderly sources base scopes map) (ref : PolicyRef) :
    Orderly sources base scopes (map.copied ref) :=
  h.withStore (h.toSettled.copied ref)

/-- A change in the store keeps a map orderly. -/
theorem Orderly.changed (h : Orderly sources base scopes map) (ref : PolicyRef)
    (f : Policy → Policy) : Orderly sources base scopes (map.changed ref f) :=
  h.withStore (h.toSettled.changed ref f)

/-- Replacing the current policy leaves the entries alone, and the initial policy too once there is
one. -/
theorem Orderly.replaceCurrent (h : Orderly sources base scopes map)
    (href : base ≤ ref ∧ ref < map.store.size) :
    Orderly sources base scopes (map.replaceCurrent ref) where
  toSettled := h.toSettled.replaceCurrent href
  formed := (h.complete.replaceCurrent ref).formed
  initial := (h.complete.replaceCurrent ref).initial
  known := (h.complete.replaceCurrent ref).known
  marked := by
    simp only [file?_replaceCurrent, replaceCurrent_location]
    exact h.marked

/-! ## Discovery -/

/-- A look-up that does not fail does nothing but enter files. -/
theorem Orderly.lookup_ok (h : Orderly table.newestFirst base scopes map)
    (hw : FileTable.WellPlaced table.newestFirst) {found : Option PolicyRef}
    (hperf : (PolicyMap.lookup service table loc).perform map = (.ok found, map')) :
    Orderly table.newestFirst base scopes map' ∧
      Discovers table.newestFirst loc.file map map' := by
  by_cases hnil : map.files = []
  · rw [perform_lookup_of_nil hnil, Prod.mk.injEq] at hperf
    rw [← hperf.2]
    exact ⟨h, Discovers.refl _ _ _⟩
  · have hsettled := (h.toSettled.lookup service table loc).of_ok hperf
    cases service with
    | abstract =>
      unfold PolicyMap.lookup at hperf
      rw [perform_get_bind, if_neg (by simpa using hnil)] at hperf
      cases hperf
    | files =>
      obtain ⟨source, hs⟩ := lookup_known hnil hperf
      obtain ⟨first, hf⟩ := h.initial
      obtain ⟨m, hent, hm, hd, points, hpts⟩ := exists_enterFile hw hs h.formed hf
      have hsame : map' = m := by
        unfold PolicyMap.lookup at hperf
        rw [perform_get_bind, if_neg (by simpa using hnil), perform_bind_of_ok (perform_decompose hs),
          perform_bind_of_ok (perform_enter hent hpts)] at hperf
        obtain ⟨ref, m', hread, hperf⟩ := perform_bind_eq_ok.mp hperf
        obtain ⟨-, rfl⟩ := perform_ofExcept_eq_ok.mp hread
        rw [perform_pure, Prod.mk.injEq] at hperf
        exact hperf.2.symm
      subst hsame
      have hc := h.complete.discovers hm hd
      refine ⟨⟨hsettled, hm, hc.initial, hc.known, fun l hl => ?_⟩, hd⟩
      rw [hd.location] at hl
      obtain ⟨points, last, hfile, hrest⟩ := h.marked l hl
      exact ⟨points, last, hd.kept _ points hfile, hrest⟩

/-! ## Appends -/

/-- A change that is admitted keeps a map orderly. -/
theorem Orderly.append (h : Orderly table.newestFirst base scopes map)
    (hw : FileTable.WellPlaced table.newestFirst) (href : base ≤ ref ∧ ref < map.store.size)
    (hperf : (PolicyMap.append .files table loc ref).perform map = (.ok (), map')) :
    Orderly table.newestFirst base scopes map' := by
  have hsettled := h.toSettled.append href hperf
  obtain ⟨first, hf⟩ := h.initial
  obtain ⟨m, points, last, source, hs, hm, hd, hpts, hlast, hle, hp⟩ := append_ok hw h.formed hf hperf
  have hc := ((h.complete.withCurrent ref loc).discovers hm hd).places hp hpts hlast hle
  refine ⟨hsettled, hc.formed, hc.initial, hc.known, fun l hl => ?_⟩
  have hloc : map'.location = some loc := hp.location.trans hd.location
  rw [hloc, Option.some.injEq] at hl
  subst hl
  refine ⟨points.place ref loc.offset, _, ?_, FilePoints.getLast?_place points ref loc.offset, rfl⟩
  rw [hp.file?, if_pos rfl, hpts, Option.map_some]

/-- Without files to read locations with, no append succeeds. -/
theorem append_service (hperf : (PolicyMap.append service table loc ref).perform map = (.ok (), map')) :
    service = .files := by
  cases service with
  | files => rfl
  | abstract =>
    unfold PolicyMap.append at hperf
    rw [perform_modify_bind] at hperf
    cases hperf

/-- An added file is not entered yet. -/
theorem Orderly.addFile {file : SourceFile} (h : Orderly sources base scopes map) :
    Orderly (file :: sources) base scopes map where
  toSettled := h.toSettled
  formed := h.complete.addFile.formed
  initial := h.initial
  known := h.complete.addFile.known
  marked := h.marked

/-! ## Holders -/

/-- What is in effect somewhere has a holder. -/
theorem inEffect?_held {id x : Int} (h : map.inEffect? sources id x = some ref) :
    0 < map.holders ref := by
  induction sources generalizing id x with
  | nil => cases h
  | cons file older ih =>
    rw [inEffect?] at h
    split at h
    · split at h
      · rename_i points hp
        cases hl : points.lookup x with
        | error fault =>
          rw [hl] at h
          cases h
        | ok found =>
          rw [hl] at h
          cases h
          obtain ⟨p, hmem, rfl⟩ := FilePoints.exists_mem_of_lookup hl
          exact Nat.lt_of_lt_of_le (holds_pos hmem) (holds_le_holders hp p.policy)
      · split at h
        · unfold holders
          rw [if_pos h]
          omega
        · exact ih h
    · exact ih h

/-- If the policy of the last point of a file is not shared, nothing else holds it. -/
theorem Orderly.alone (h : Orderly sources base scopes map) {file : Int}
    (hfile : map.file? (some file) = some points) (hlast : points.points.getLast? = some last)
    (hs : ¬(map.store.get last.policy).isShared = true) : Alone file last.policy scopes map := by
  have hmem := List.mem_of_getLast? hlast
  have hrefs : map.holders last.policy + scopes.count last.policy ≤ 1 := by
    unfold SharedPolicy.isShared at hs
    rw [h.counts.refs _ (h.counts.point_bounds hfile hmem).1] at hs
    simpa using hs
  have hheld := holds_pos hmem
  have hpoints := holds_le_pointHolders hfile last.policy
  unfold holders at hrefs
  refine ⟨fun key points' hne hp p hmem' heq => ?_, fun points' hp p hmem' heq => ?_, fun hf => ?_,
    List.count_eq_zero.mp (by omega)⟩
  · have htwo := holds_add_holds_le hp hfile hne last.policy
    have hother := holds_pos hmem'
    rw [heq] at hother
    omega
  · rw [hfile, Option.some.injEq] at hp
    subst hp
    have htwo := holds_concat points _ _ (FilePoints.points_eq_concat hlast) last.policy
    rw [if_pos rfl] at htwo
    have hearlier : 0 < points.points.dropLast.countP fun p => p.policy = last.policy := by
      rw [List.countP_pos_iff]
      exact ⟨p, hmem', by simpa using heq⟩
    omega
  · rw [if_pos hf] at hrefs
    omega

end PolicyMap

/-! ## Engines -/

namespace Engine

/-- The policies of an engine are orderly over the files that it knows. -/
def Orderly (e : Engine) : Prop :=
  ∃ base, PolicyMap.Orderly e.files.newestFirst base e.scopes e.policies

variable {loc : Option Location} {e e' : Engine} {ref : PolicyRef}

/-- Looking a policy up keeps an engine orderly. -/
theorem Orderly.of_policyAt (h : e.Orderly) (hw : FileTable.WellPlaced e.files.newestFirst)
    (hperf : (policyAt loc).perform e = (.ok ref, e')) : e'.Orderly := by
  obtain ⟨base, h⟩ := h
  rcases policyAt_ok hperf with ⟨l, service, map, -, -, hlookup, rfl⟩ | ⟨-, -, rfl⟩
  · exact ⟨base, (h.lookup_ok hw hlookup).1⟩
  · exact ⟨base, h⟩

/-- Making the current policy a private one keeps an engine orderly. -/
theorem Orderly.of_ownCurrent (h : e.Orderly) (hperf : ownCurrent.perform e = (.ok ref, e')) :
    e'.Orderly := by
  obtain ⟨base, h⟩ := h
  obtain ⟨cur, hcur, ⟨-, rfl, rfl⟩ | ⟨rfl, outlet, rfl⟩⟩ := ownCurrent_ok hperf
  · exact ⟨base, h⟩
  · exact ⟨base, (h.copied cur).replaceCurrent (h.copy_bounds cur)⟩

/-- Making the policy at a location a private one keeps an engine orderly. -/
theorem Orderly.of_ownAt {l : Location} (h : e.Orderly)
    (hw : FileTable.WellPlaced e.files.newestFirst)
    (hperf : (ownAt l).perform e = (.ok ref, e')) : e'.Orderly := by
  obtain ⟨service, found, e₁, -, hfound, hcase⟩ := ownAt_ok hperf
  have h₁ := h.of_policyAt hw hfound
  rw [← (policyAt_unmoved hfound).1.files] at hw
  rcases hcase with ⟨-, -, -, -, rfl⟩ | ⟨rfl, map, outlet, happend, rfl⟩
  · exact h₁
  · obtain ⟨base, h₁⟩ := h₁
    obtain rfl := PolicyMap.append_service happend
    exact ⟨base, (h₁.copied found).append hw (h₁.copy_bounds found) happend⟩

/-- Both ways to a private policy keep an engine orderly. -/
theorem Orderly.of_ownPolicy (h : e.Orderly) (hw : FileTable.WellPlaced e.files.newestFirst)
    (hperf : (ownPolicy loc).perform e = (.ok ref, e')) : e'.Orderly := by
  cases loc with
  | none => exact h.of_ownCurrent hperf
  | some l => exact h.of_ownAt hw hperf

/-- Opening a scope keeps an engine orderly. -/
theorem Orderly.of_pushScope (h : e.Orderly) (hperf : (pushScope loc).perform e = (.ok (), e')) :
    e'.Orderly := by
  obtain ⟨base, h⟩ := h
  obtain ⟨cur, outlet, hcur, rfl⟩ := pushScope_ok hperf
  exact ⟨base, h.withStore (h.retainScope hcur)⟩

/-- A saved policy becomes current again, in place or by an append. -/
theorem Orderly.of_restore {saved : PolicyRef} (h : e.Orderly)
    (hw : FileTable.WellPlaced e.files.newestFirst) (hmem : saved ∈ e.scopes)
    (hperf : (restore saved loc).perform e = (.ok (), e')) : e'.Orderly := by
  obtain ⟨base, h⟩ := h
  have hbounds := h.counts.scope_bounds hmem
  rcases restore_ok hperf with ⟨-, rfl⟩ | ⟨-, ⟨l, service, map, -, -, happend, rfl⟩ | ⟨-, rfl⟩⟩
  · exact ⟨base, h⟩
  · obtain rfl := PolicyMap.append_service happend
    exact ⟨base, h.append hw hbounds happend⟩
  · exact ⟨base, h.replaceCurrent hbounds⟩

/-- Closing a scope keeps an engine orderly. -/
theorem Orderly.of_popScope (h : e.Orderly) (hw : FileTable.WellPlaced e.files.newestFirst)
    {closed : Bool} (hperf : (popScope loc).perform e = (.ok closed, e')) : e'.Orderly := by
  rcases popScope_ok hperf with ⟨-, outlet, rfl⟩ | ⟨saved, outer, e₁, outlet, hs, hrestore, rfl⟩
  · exact h
  · have hmem : saved ∈ e.scopes := by
      rw [hs]
      exact List.mem_cons_self
    obtain ⟨base, h₁⟩ := h.of_restore hw hmem hrestore
    rw [(restore_unmoved hrestore).2, hs] at h₁
    exact ⟨base, h₁.withStore h₁.toSettled.releaseScope⟩

/-- How a file is added. -/
theorem addFile_ok {name text : String} {includedAt : Option Location}
    (hperf : (addFile name text includedAt).perform e = (.ok (), e')) :
    ∃ id table, e.files.add name text includedAt = .ok (id, table) ∧ e' = { e with files := table } := by
  unfold addFile at hperf
  rw [perform_get_bind] at hperf
  obtain ⟨⟨id, table⟩, e₁, hadd, hperf⟩ := perform_bind_eq_ok.mp hperf
  obtain ⟨hadded, rfl⟩ := perform_ofExcept_eq_ok.mp hadd
  cases hperf
  exact ⟨id, table, hadded, rfl⟩

/-- Adding a file keeps an engine orderly. -/
theorem Orderly.of_addFile {name text : String} {includedAt : Option Location} (h : e.Orderly)
    (hperf : (addFile name text includedAt).perform e = (.ok (), e')) : e'.Orderly := by
  obtain ⟨base, h⟩ := h
  obtain ⟨id, table, hadd, rfl⟩ := addFile_ok hperf
  refine ⟨base, ?_⟩
  show PolicyMap.Orderly table.newestFirst base e.scopes e.policies
  rw [(FileTable.add_eq_ok hadd).1]
  exact h.addFile

/-- An engine is orderly once it is reset. -/
theorem orderly_reset (e : Engine) : (reset.perform e).2.Orderly := by
  obtain ⟨base, hsettled⟩ := (settled_reset e).of_total
  obtain ⟨outlet, hperf⟩ := perform_reset e
  rw [hperf] at hsettled ⊢
  have hc : PolicyMap.Complete e.files.newestFirst (restarted e) := .of_nil rfl rfl
  exact ⟨base, hsettled, hc.formed, hc.initial, hc.known, fun l hl => by cases hl⟩

/-- The files that were known before one was added have well placed include points if all have. -/
theorem wellPlaced_of_addFile {name text : String} {includedAt : Option Location}
    (hperf : (addFile name text includedAt).perform e = (.ok (), e'))
    (hw : FileTable.WellPlaced e'.files.newestFirst) : FileTable.WellPlaced e.files.newestFirst := by
  obtain ⟨id, table, hadd, rfl⟩ := addFile_ok hperf
  rw [show ({ e with files := table } : Engine).files = table from rfl,
    (FileTable.add_eq_ok hadd).1] at hw
  exact hw.2

/-- All calls that do not fail keep the policies orderly if the include points are well placed. -/
theorem upkeep_orderly :
    Upkeep false fun e => FileTable.WellPlaced e.files.newestFirst → e.Orderly where
  apart := by
    intro e e' he ha
    unfold Orderly
    rw [ha.files, ha.policies, ha.scopes]
    exact he
  look loc := by
    refine keeps_of_ok fun e ref e' he hperf hw => ?_
    rw [(policyAt_unmoved hperf).1.files] at hw
    exact (he hw).of_policyAt hw hperf
  own loc := by
    refine keeps_of_ok fun e ref e' he hperf hw => ?_
    rw [(ownPolicy_unmoved hperf).1.files] at hw
    exact (he hw).of_ownPolicy hw hperf
  change := by
    intro loc e e' ref he hperf f hw
    -- Files are placed as they were before the change.
    have hw' : FileTable.WellPlaced e.files.newestFirst := by
      rw [← (ownPolicy_unmoved hperf).1.files]
      exact hw
    obtain ⟨base, h⟩ := (he hw').of_ownPolicy hw' hperf
    exact ⟨base, h.changed ref f⟩
  push loc := by
    refine keeps_of_ok fun e _ e' he hperf hw => ?_
    rw [(pushScope_unmoved hperf).files] at hw
    exact (he hw).of_pushScope hperf
  pop loc := by
    refine keeps_of_ok fun e closed e' he hperf hw => ?_
    rw [(popScope_unmoved hperf).files] at hw
    exact (he hw).of_popScope hw hperf
  addFile name text includedAt := by
    refine keeps_of_ok fun e _ e' he hperf hw => ?_
    exact (he (wellPlaced_of_addFile hperf hw)).of_addFile hperf
  reset := by
    refine keeps_of_ok fun e _ e' _ hperf _ => ?_
    have h := orderly_reset e
    rwa [hperf] at h

/-- Reachable engines over well placed include points are orderly. -/
theorem orderly_of_reached {front : FrontEnd} (hfront : front.Makes fun _ => True)
    (h : Reached front e) (hw : FileTable.WellPlaced e.files.newestFirst) : e.Orderly :=
  upkeep_orderly.lasting.reached (fun e _ => orderly_reset e) hfront h hw

end Engine

end Diagnostics
