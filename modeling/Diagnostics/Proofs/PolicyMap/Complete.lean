import Diagnostics.Proofs.PolicyMap.Calls

/-!
# Complete maps

A map is complete if no file is half entered: there is an initial policy, every entry belongs to a known
file, starts at offset zero, ascends, and hangs off the entry of its include point. `Complete` is what
all operations keep, in any order and whether they fail or not. A refused append leaves the files behind
that it entered on the way, and these are complete as well, since nothing can fail while a known file is
entered.

That a file can always be entered comes from the file table: going from a file to what it inherits from
ends, because a file is added before the files that it includes.
-/

set_option autoImplicit false

namespace Diagnostics.PolicyMap

open Diagnostics.Action

/-- There is an initial policy, and the entries are in form and belong to known files. -/
structure Complete (sources : List SourceFile) (map : PolicyMap) : Prop where
  formed : Formed sources map
  initial : ∃ ref, map.first = some ref
  known : ∀ id points, map.file? (some id) = some points →
    ∃ source, FileTable.lookup sources id = some source

variable {sources : List SourceFile} {table table' : FileTable} {map map' : PolicyMap}
  {ref : PolicyRef}

/-- A map without entries is complete once it has an initial policy. -/
theorem Complete.of_nil (hfiles : map.files = []) (hfirst : map.first = some ref) :
    Complete sources map where
  formed := Formed.of_nil hfiles
  initial := ⟨ref, hfirst⟩
  known id points hp := by
    rw [file?_of_nil hfiles] at hp
    cases hp

/-! ## What does not touch the entries -/

/-- The store of policies does not matter. -/
theorem Complete.withStore (h : Complete sources map) (store : PolicyStore) :
    Complete sources { map with store } :=
  ⟨⟨h.formed.root, h.formed.entered⟩, h.initial, h.known⟩

/-- Which policy is current, and where, does not matter. -/
theorem Complete.withCurrent (h : Complete sources map) (ref : PolicyRef) (loc : Location) :
    Complete sources { map with current := some ref, location := some loc } :=
  ⟨⟨h.formed.root, h.formed.entered⟩, h.initial, h.known⟩

/-- Replacing the current policy leaves the entries alone, and the initial policy too once there is
an entry. -/
theorem Formed.replaceCurrent (h : Formed sources map) (ref : PolicyRef) :
    Formed sources (map.replaceCurrent ref) := by
  constructor
  · intro root hroot
    rw [file?_replaceCurrent] at hroot
    have hne : map.files ≠ [] := files_ne_nil_iff.mpr ⟨_, _, hroot⟩
    have hsame : (map.replaceCurrent ref).first = map.first := by
      unfold PolicyMap.replaceCurrent
      rw [if_neg (by simp [hne])]
    rw [hsame]
    exact h.root root hroot
  · simp only [file?_replaceCurrent]
    exact h.entered

/-- An initial policy may be replaced by another one. -/
theorem exists_first_replaceCurrent (h : ∃ first, map.first = some first) (ref : PolicyRef) :
    ∃ first, (map.replaceCurrent ref).first = some first := by
  unfold PolicyMap.replaceCurrent
  split
  · exact ⟨ref, rfl⟩
  · exact h

/-- Making another policy current keeps a map complete. -/
theorem Complete.replaceCurrent (h : Complete sources map) (ref : PolicyRef) :
    Complete sources (map.replaceCurrent ref) where
  formed := h.formed.replaceCurrent ref
  initial := exists_first_replaceCurrent h.initial ref
  known := by
    simp only [file?_replaceCurrent]
    exact h.known

/-- An added file is not entered yet. -/
theorem Complete.addFile {file : SourceFile} (h : Complete sources map) :
    Complete (file :: sources) map where
  formed := by
    refine ⟨h.formed.root, fun id source points hs hp => ?_⟩
    obtain ⟨source', hs'⟩ := h.known id points hp
    have := FileTable.lookup_bounds hs'
    rw [FileTable.lookup_cons_of_ne (by omega)] at hs
    exact h.formed.entered id source points hs hp
  initial := h.initial
  known id points hp := by
    obtain ⟨source, hs⟩ := h.known id points hp
    exact ⟨source, FileTable.lookup_cons_of_lookup hs⟩

/-! ## What enters files -/

/-- A discovery enters known files only. -/
theorem Discovers.known {target : Int} (hd : Discovers sources target map map')
    (h : ∀ id points, map.file? (some id) = some points →
      ∃ source, FileTable.lookup sources id = some source) :
    ∀ id points, map'.file? (some id) = some points →
      ∃ source, FileTable.lookup sources id = some source := by
  intro id points hp
  cases hold : map.file? (some id) with
  | some old => exact h id old hold
  | none =>
    obtain ⟨-, source, _, _, hs, -⟩ := hd.fresh id points hold hp
    exact ⟨source, hs⟩

/-- A discovery keeps a map complete. -/
theorem Complete.discovers {target : Int} (h : Complete sources map) (hm' : Formed sources map')
    (hd : Discovers sources target map map') : Complete sources map' where
  formed := hm'
  initial := by
    obtain ⟨first, hf⟩ := h.initial
    exact ⟨first, hd.first.trans hf⟩
  known := hd.known h.known

/-- Recording a policy keeps the entries complete. -/
theorem Complete.places {id offset : Int} {points : FilePoints} {last : PolicyPoint}
    (h : Complete sources map) (hplaces : Places (some id) ref offset map map')
    (hp : map.file? (some id) = some points) (hlast : points.points.getLast? = some last)
    (ho : last.offset ≤ offset) : Complete sources map' where
  formed := h.formed.places hplaces hp hlast ho
  initial := by
    obtain ⟨first, hf⟩ := h.initial
    exact ⟨first, hplaces.first.trans hf⟩
  known i file hfile := by
    by_cases hi : i = id
    · subst hi
      exact h.known i points hp
    · rw [hplaces.file?, if_neg (by simpa using hi)] at hfile
      exact h.known i file hfile

/-- Entering a known file succeeds, and nothing is half entered afterwards. -/
theorem Complete.exists_enter (h : Complete table.newestFirst map)
    (hw : FileTable.WellPlaced table.newestFirst) {id : Int} {source : SourceFile}
    (hs : FileTable.lookup table.newestFirst id = some source) :
    ∃ map' points, (enter table (some id)).perform map = (.ok points, map') ∧
      Complete table.newestFirst map' ∧ map'.file? (some id) = some points := by
  obtain ⟨first, hf⟩ := h.initial
  obtain ⟨map', hperf, hm', hd, points, hpts⟩ := exists_enterFile hw hs h.formed hf
  exact ⟨map', points, perform_enter hperf hpts, h.discovers hm' hd, hpts⟩

/-- A look-up leaves a complete map, whether it fails or not. -/
theorem Complete.lookup (h : Complete table.newestFirst map)
    (hw : FileTable.WellPlaced table.newestFirst) (loc : Location) :
    EndsIn true (Complete table.newestFirst) map (lookup .files table loc) := by
  unfold PolicyMap.lookup
  apply endsIn_get_bind
  split
  · exact endsIn_get_bind (endsIn_pure _ h)
  · refine endsIn_bind (endsIn_ofExcept _ h) fun found map₁ hperf _ => ?_
    obtain ⟨hdec, rfl⟩ := perform_ofExcept_eq_ok.mp hperf
    obtain ⟨source, hs⟩ := FileTable.exists_lookup_of_decompose hdec
    have hfound : found = (loc.file, loc.offset) :=
      Except.ok.inj (hdec.symm.trans (FileTable.decompose_eq_ok hs))
    subst hfound
    obtain ⟨map', points, hent, h', -⟩ := h.exists_enter hw hs
    refine endsIn_bind_of_ok hent ?_
    exact keeps_bind (keeps_ofExcept _) (fun _ => keeps_pure _) map' h'

/-- An append leaves a complete map, whether it is refused or not. -/
theorem Complete.append (h : Complete table.newestFirst map)
    (hw : FileTable.WellPlaced table.newestFirst) (loc : Location) (ref : PolicyRef) :
    EndsIn true (Complete table.newestFirst) map (append .files table loc ref) := by
  have hcur := h.withCurrent ref loc
  cases hs : FileTable.lookup table.newestFirst loc.file with
  | none => exact endsIn_of_perform (perform_append_unknown hs ref) hcur
  | some source =>
    obtain ⟨first, hf⟩ := h.initial
    obtain ⟨m, points, last, hm, hd, hpts, hlast, hperf⟩ := exists_append hw h.formed hf hs ref
    have hm' := hcur.discovers hm hd
    by_cases hlt : loc.offset < last.offset
    · rw [if_pos hlt] at hperf
      exact endsIn_of_perform hperf hm'
    · rw [if_neg hlt] at hperf
      have hplaces : Places (some loc.file) ref loc.offset m
          (m.record (some loc.file) last ref loc.offset) := places_record hpts hlast
      exact endsIn_of_perform hperf (hm'.places hplaces hpts hlast (by omega))

end Diagnostics.PolicyMap
