import Diagnostics.Proofs.Ends
import Diagnostics.Proofs.Lockstep
import Diagnostics.Proofs.PolicyMap.Calls
import Diagnostics.Proofs.PolicyMap.Grown

/-!
# Appends that are refused

An append in front of the last point of its file is refused, after the policy was made current and after
the file was entered. But a file that is entered only now ends at offset zero, in front of which there are
no locations. So a refused append has entered nothing, and neither had a look-up there just before.

Whether an append will be refused can be said of the map in advance: `Passed` says that its file has a
point behind the location. A change at a location that was passed may still succeed, where the policy in
effect there can be changed in place; `Admits` says that it is not refused in either way.
-/

set_option autoImplicit false

namespace Diagnostics

/-- The fault of a change in front of one that was recorded before. -/
def Fault.IsOutOfOrder (fault : Fault) : Prop :=
  ∃ offset last file, fault = .ofDefect (.transitionOutOfOrder offset last file)

/-- A file without a point for an offset is another fault. -/
theorem FilePoints.lookup_faults {file : FilePoints} {x : Int} {fault : Fault}
    (h : file.lookup x = .error fault) : ¬fault.IsOutOfOrder := by
  rw [lookup_eq_error h]
  rintro ⟨_, _, _, ⟨⟩⟩

namespace PolicyMap

open Diagnostics.Action

variable {service : LocationService} {table : FileTable} {loc : Location} {map map' : PolicyMap}
  {file : FilePoints} {ref : PolicyRef} {key : FileKey}

/-- The file of a location has a point behind it. -/
def Passed (loc : Location) (map : PolicyMap) : Prop :=
  ∃ file last, map.file? (some loc.file) = some file ∧ file.points.getLast? = some last ∧
    loc.offset < last.offset

/-- The policy in effect at a location can be changed in place: it is current since an append right
there, and nobody else holds it. -/
def InPlaceAt (loc : Location) (map : PolicyMap) : Prop :=
  ∃ file ref, map.file? (some loc.file) = some file ∧ file.lookup loc.offset = .ok ref ∧
    map.location = some loc ∧ map.current = some ref ∧ ¬(map.store.get ref).isShared = true

/-- A change at a location is not refused. -/
def Admits (loc : Location) (map : PolicyMap) : Prop :=
  Passed loc map → InPlaceAt loc map

/-! ## Faults of other kinds -/

/-- A location that is not decomposed is another fault. -/
theorem decompose_faults {fault : Fault} (h : service.decompose table loc = .error fault) :
    ¬fault.IsOutOfOrder := by
  cases service with
  | files =>
    cases hs : FileTable.lookup table.newestFirst loc.file with
    | none =>
      rw [show LocationService.files.decompose table loc = table.decompose loc from rfl,
        FileTable.decompose_eq_error hs] at h
      cases h
      rintro ⟨_, _, _, ⟨⟩⟩
    | some source =>
      rw [show LocationService.files.decompose table loc = table.decompose loc from rfl,
        FileTable.decompose_eq_ok hs] at h
      cases h
  | abstract =>
    cases h
    rintro ⟨_, _, _, ⟨⟩⟩

/-- Entering no file at all refuses no change. -/
theorem avoids_enterRoot : Avoids Fault.IsOutOfOrder enterRoot := by
  unfold enterRoot
  refine avoids_bind avoids_get fun map => avoids_ite ?_ (avoids_pure _)
  refine avoids_bind (avoids_modify _) fun _ => avoids_bind avoids_get fun map' => ?_
  split
  · exact avoids_modify _
  · apply avoids_throw
    rintro ⟨_, _, _, ⟨⟩⟩

/-- Inheriting refuses no change. -/
theorem avoids_inherit (id : Int) (parent : FileKey) (offset : Int) :
    Avoids Fault.IsOutOfOrder (inherit id parent offset) := by
  unfold inherit
  refine avoids_bind (avoids_modify _) fun _ => avoids_bind avoids_get fun map => ?_
  exact avoids_bind (avoids_ofExcept fun _ => FilePoints.lookup_faults) fun _ => avoids_modify _

/-- Entering a file refuses no change. -/
theorem avoids_enterFile (sources : List SourceFile) (id : Int) :
    Avoids Fault.IsOutOfOrder (enterFile sources id) := by
  induction sources generalizing id with
  | nil =>
    unfold enterFile
    refine avoids_bind avoids_get fun map => avoids_ite ?_ (avoids_pure _)
    refine avoids_bind (avoids_modify _) fun _ => avoids_throw ?_
    rintro ⟨_, _, _, ⟨⟩⟩
  | cons source older ih =>
    unfold enterFile
    refine avoids_ite ?_ (ih id)
    refine avoids_bind avoids_get fun map => avoids_ite ?_ (avoids_pure _)
    refine avoids_bind (avoids_modify _) fun _ => ?_
    split
    · exact avoids_bind avoids_enterRoot fun _ => avoids_inherit _ _ _
    · exact avoids_bind (ih _) fun _ => avoids_inherit _ _ _

/-- Entering anything refuses no change. -/
theorem avoids_enter (table : FileTable) (key : FileKey) :
    Avoids Fault.IsOutOfOrder (enter table key) := by
  unfold enter
  cases key with
  | none => exact avoids_bind avoids_enterRoot fun _ => avoids_bind avoids_get fun _ => avoids_pure _
  | some id =>
    exact avoids_bind (avoids_enterFile _ _) fun _ => avoids_bind avoids_get fun _ => avoids_pure _

/-- Looking a policy up refuses no change. -/
theorem avoids_lookup (service : LocationService) (table : FileTable) (loc : Location) :
    Avoids Fault.IsOutOfOrder (lookup service table loc) := by
  unfold lookup
  refine avoids_bind avoids_get fun map => avoids_ite ?_ ?_
  · exact avoids_bind avoids_get fun _ => avoids_pure _
  · refine avoids_bind (avoids_ofExcept fun _ => decompose_faults) fun found => ?_
    refine avoids_bind (avoids_enter _ _) fun file => ?_
    exact avoids_bind (avoids_ofExcept fun _ => FilePoints.lookup_faults) fun _ => avoids_pure _

/-! ## Locations that were passed -/

/-- Nothing is done for a file that was entered, known or not. -/
theorem perform_enter_entered (h : map.file? (some loc.file) = some file) :
    (enter table (some loc.file)).perform map = (.ok file, map) := by
  have henter : ∀ sources, (enterFile sources loc.file).perform map = (.ok (), map) := by
    intro sources
    induction sources with
    | nil => simp [enterFile, h]
    | cons source older ih =>
      unfold enterFile
      split
      · simp [h]
      · exact ih
  exact perform_enter (henter _) h

/-- A file that was just entered ends at offset zero. -/
theorem Grown.entered_of_passed (h : Grown map map') (hp : Passed loc map') (ho : 0 ≤ loc.offset) :
    ∃ file, map.file? (some loc.file) = some file := by
  obtain ⟨file, last, hfile, hlast, hlt⟩ := hp
  cases hold : map.file? (some loc.file) with
  | some old => exact ⟨old, rfl⟩
  | none =>
    rcases h.fresh _ file hold hfile with hnil | ⟨ref, hpts, -⟩
    · simp [hnil] at hlast
    · rw [hpts, List.getLast?_singleton, Option.some.injEq] at hlast
      subst hlast
      simp only at hlt
      omega

/-- A location is decomposed into its own file and offset. -/
theorem decompose_eq {found : Int × Int} (h : service.decompose table loc = .ok found) :
    found = (loc.file, loc.offset) := by
  cases service with
  | files =>
    obtain ⟨source, hs⟩ := FileTable.exists_lookup_of_decompose h
    exact Except.ok.inj (h.symm.trans (FileTable.decompose_eq_ok hs))
  | abstract => cases h

/-- A look-up in an entered file reads its points, if the location has a file at all. -/
theorem perform_lookup_entered (hfile : map.file? (some loc.file) = some file) :
    (lookup service table loc).perform map =
      ((service.decompose table loc).bind fun _ => (file.lookup loc.offset).map some, map) := by
  have hne : ¬map.files.isEmpty = true := by
    simpa using files_ne_nil_iff.mpr ⟨_, _, hfile⟩
  unfold lookup
  rw [perform_get_bind, if_neg hne]
  cases hdec : service.decompose table loc with
  | error fault => exact perform_bind_of_error (perform_ofExcept _ _)
  | ok found =>
    rw [perform_bind_of_ok (perform_ofExcept _ _), decompose_eq hdec,
      perform_bind_of_ok (perform_enter_entered hfile)]
    cases hl : file.lookup loc.offset with
    | error fault => exact perform_bind_of_error (perform_ofExcept _ _)
    | ok ref => rw [perform_bind_of_ok (perform_ofExcept _ _)]; rfl

/-- What a look-up finds in an entered file is what the points of the file say. -/
theorem lookup_entered (h : (lookup service table loc).perform map = (.ok (some ref), map'))
    (hfile : map.file? (some loc.file) = some file) : file.lookup loc.offset = .ok ref := by
  rw [perform_lookup_entered hfile, Prod.mk.injEq] at h
  cases hdec : service.decompose table loc with
  | error fault =>
    rw [hdec] at h
    cases h.1
  | ok found =>
    rw [hdec] at h
    cases hl : file.lookup loc.offset with
    | error fault =>
      rw [hl] at h
      cases h.1
    | ok r =>
      rw [hl] at h
      cases h.1
      rfl

/-- A look-up that ends at a location that was passed has entered nothing. -/
theorem lookup_passed {found : Except Fault (Option PolicyRef)}
    (h : (lookup service table loc).perform map = (found, map')) (hp : Passed loc map')
    (ho : 0 ≤ loc.offset) : map' = map := by
  have hgrown := (grown_lookup service table loc map).of_total
  rw [h] at hgrown
  obtain ⟨file, hfile⟩ := hgrown.entered_of_passed hp ho
  rw [perform_lookup_entered hfile, Prod.mk.injEq] at h
  exact h.2.symm

/-- Behind a policy that was just recorded there are no points. -/
theorem not_passed_record {last : PolicyPoint} (hfile : map.file? (some loc.file) = some file)
    (hlast : file.points.getLast? = some last) :
    ¬Passed loc (map.record (some loc.file) last ref loc.offset) := by
  rintro ⟨file', last', hfile', hlast', hlt⟩
  have hplaces : Places (some loc.file) ref loc.offset map
      (map.record (some loc.file) last ref loc.offset) := places_record hfile hlast
  have hplaced := hplaces.file? (some loc.file)
  rw [if_pos rfl, hfile, Option.map_some, hfile', Option.some.injEq] at hplaced
  rw [hplaced, FilePoints.getLast?_place, Option.some.injEq] at hlast'
  subst hlast'
  exact Int.lt_irrefl _ hlt

/-- In an entered file an append is refused if its location was passed, and does nothing then. -/
theorem ends_recordAt {last : PolicyPoint} (hfile : map.file? (some loc.file) = some file)
    (hlast : file.points.getLast? = some last) (ref : PolicyRef) :
    Ends (if loc.offset < last.offset then
        throw (.ofDefect (.transitionOutOfOrder loc.offset last.offset loc.file))
      else if last.offset = loc.offset then
        if last.policy ≠ ref then
          modify fun map => map.replaceLast (some loc.file) last.policy ref
        else pure ()
      else modify fun map => map.pushPoint (some loc.file) ⟨ref, loc.offset⟩) map
      (fun _ map' => ¬Passed loc map') fun _ map' => Passed loc map ∧ map' = map := by
  have hrecord : ¬Passed loc (map.record (some loc.file) last ref loc.offset) :=
    not_passed_record hfile hlast
  unfold record at hrecord
  apply ends_ite
  · intro hlt
    exact ends_throw ⟨⟨file, last, hfile, hlast, hlt⟩, rfl⟩
  · intro _
    apply ends_ite
    · intro hsame
      rw [if_pos hsame] at hrecord
      apply ends_ite
      · intro hother
        rw [if_pos hother] at hrecord
        exact ends_modify hrecord
      · intro hother
        rw [if_neg hother] at hrecord
        exact ends_pure hrecord
    · intro hlater
      rw [if_neg hlater] at hrecord
      exact ends_modify hrecord

/-- An append that is refused has only made its policy current, and its location was passed before;
after any other one it is not. -/
theorem ends_append (service : LocationService) (table : FileTable) (ref : PolicyRef)
    (map : PolicyMap) (ho : 0 ≤ loc.offset) :
    Ends (append service table loc ref) map (fun _ map' => ¬Passed loc map') fun fault map' =>
      fault.IsOutOfOrder →
        Passed loc map ∧ map' = { map with current := some ref, location := some loc } := by
  unfold append
  apply ends_modify_bind
  apply ends_bind
  apply ends_ofExcept
  · intro found hdec
    rw [decompose_eq hdec]
    apply ends_bind
    rw [ends_iff]
    constructor
    · intro points m henter
      have hgrown := (grown_enter table _ _).of_ok henter
      have hvalue := enter_value henter
      split
      · apply ends_throw
        rintro ⟨_, _, _, ⟨⟩⟩
      · rename_i last hlast
        have hfile : m.file? (some loc.file) = some points := by
          cases hfile : m.file? (some loc.file) with
          | none => simp [hvalue, hfile] at hlast
          | some points' => simp [hvalue, hfile]
        refine (ends_recordAt hfile hlast ref).imp (fun _ _ h => h) fun fault map' h _ => ?_
        obtain ⟨hpassed, rfl⟩ := h
        -- A file that was passed had been entered before, so entering it changed nothing.
        obtain ⟨old, hold⟩ := hgrown.entered_of_passed hpassed ho
        rw [perform_enter_entered hold] at henter
        cases henter
        exact ⟨hpassed, rfl⟩
    · intro fault m henter hf
      exact absurd hf ((avoids_enter table _ _).of_error henter)
  · intro fault hdec hf
    exact absurd hf (decompose_faults hdec)

/-! ## Look-ups read entries only -/

/-- Two maps have the same entries and the same initial policy. -/
def SameEntries (map map' : PolicyMap) : Prop :=
  map.files = map'.files ∧ map.first = map'.first

/-- The same entries are found in both maps. -/
theorem SameEntries.file? (h : SameEntries map map') (key : FileKey) :
    map.file? key = map'.file? key := by
  unfold PolicyMap.file?
  rw [h.1]

/-- Both maps add the same entry. -/
theorem lockstep_insertFile (key : FileKey) :
    Lockstep SameEntries (modify fun map => map.insertFile key)
      (modify fun map => map.insertFile key) := by
  apply lockstep_modify
  rintro map map' ⟨hfiles, hfirst⟩
  exact ⟨by simp [insertFile, hfiles], hfirst⟩

/-- Both maps add the same point. -/
theorem lockstep_pushPoint (key : FileKey) (point : PolicyPoint) :
    Lockstep SameEntries (modify fun map => map.pushPoint key point)
      (modify fun map => map.pushPoint key point) := by
  apply lockstep_modify
  rintro map map' ⟨hfiles, hfirst⟩
  exact ⟨by simp [pushPoint, updateFile, hfiles], hfirst⟩

/-- Both maps enter no file at all in the same way. -/
theorem lockstep_enterRoot : Lockstep SameEntries enterRoot enterRoot := by
  unfold enterRoot
  apply lockstep_get_bind
  intro map map' h
  rw [h.file?]
  refine lockstep_ite ?_ (lockstep_pure _)
  refine lockstep_bind (lockstep_insertFile _) fun _ => lockstep_get_bind fun m m' h' => ?_
  rw [h'.2]
  split
  · exact lockstep_pushPoint _ _
  · exact lockstep_throw _

/-- Both maps inherit in the same way. -/
theorem lockstep_inherit (id : Int) (parent : FileKey) (offset : Int) :
    Lockstep SameEntries (inherit id parent offset) (inherit id parent offset) := by
  unfold inherit
  refine lockstep_bind (lockstep_modify ?_) fun _ => lockstep_get_bind fun map map' h => ?_
  · rintro map map' ⟨hfiles, hfirst⟩
    exact ⟨by simp [updateFile, hfiles], hfirst⟩
  · rw [h.file?]
    exact lockstep_bind (lockstep_ofExcept _) fun _ => lockstep_pushPoint _ _

/-- Both maps enter a file in the same way. -/
theorem lockstep_enterFile (sources : List SourceFile) (id : Int) :
    Lockstep SameEntries (enterFile sources id) (enterFile sources id) := by
  induction sources generalizing id with
  | nil =>
    unfold enterFile
    apply lockstep_get_bind
    intro map map' h
    rw [h.file?]
    exact lockstep_ite (lockstep_bind (lockstep_insertFile _) fun _ => lockstep_throw _)
      (lockstep_pure _)
  | cons source older ih =>
    unfold enterFile
    refine lockstep_ite (lockstep_get_bind fun map map' h => ?_) (ih id)
    rw [h.file?]
    refine lockstep_ite (lockstep_bind (lockstep_insertFile _) fun _ => ?_) (lockstep_pure _)
    split
    · exact lockstep_bind lockstep_enterRoot fun _ => lockstep_inherit _ _ _
    · exact lockstep_bind (ih _) fun _ => lockstep_inherit _ _ _

/-- What a look-up finds depends on the entries and on the initial policy. -/
theorem lockstep_lookup (service : LocationService) (table : FileTable) (loc : Location) :
    Lockstep SameEntries (lookup service table loc) (lookup service table loc) := by
  have hpoints : ∀ key, Lockstep SameEntries
      (do return ((← get).file? key).getD {} : Action PolicyMap FilePoints)
      (do return ((← get).file? key).getD {}) := by
    intro key
    apply lockstep_get_bind
    intro map map' h
    rw [h.file?]
    exact lockstep_pure _
  unfold lookup
  apply lockstep_get_bind
  intro map map' h
  rw [h.1]
  refine lockstep_ite (lockstep_get_bind fun m m' h' => ?_) ?_
  · rw [h'.2]
    exact lockstep_pure _
  · refine lockstep_bind (lockstep_ofExcept _) fun found => ?_
    refine lockstep_bind (lockstep_bind (lockstep_enterFile _ _) fun _ => hpoints _) fun file => ?_
    exact lockstep_bind (lockstep_ofExcept _) fun _ => lockstep_pure _

end PolicyMap

end Diagnostics
