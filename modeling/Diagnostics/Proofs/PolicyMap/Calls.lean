import Diagnostics.Proofs.PolicyMap.Discovery

/-!
# Calls on a map

An append enters the file of its location and then records its policy at the end of that file; a
look-up enters the file and reads it. Both are stated here over a table of files with well placed
include points: the calls succeed, with one exception, an append in front of the last point of its
file.
-/

set_option autoImplicit false

namespace Diagnostics.PolicyMap

open Diagnostics.Action

variable {table : FileTable} {map map' : PolicyMap} {loc : Location} {ref first : PolicyRef}
  {source : SourceFile}

/-! ## Recording a policy -/

/-- A policy at the end of an entered file, whose last point is given. -/
def record (map : PolicyMap) (key : FileKey) (last : PolicyPoint) (ref : PolicyRef) (offset : Int) :
    PolicyMap :=
  if last.offset = offset then
    if last.policy ≠ ref then map.replaceLast key last.policy ref else map
  else map.pushPoint key ⟨ref, offset⟩

/-- The effect of recording a policy at the end of a file. -/
structure Places (key : FileKey) (ref : PolicyRef) (offset : Int) (map map' : PolicyMap) : Prop
    extends Alike map map' where
  file? : ∀ k, map'.file? k =
    if k = key then (map.file? k).map fun points => points.place ref offset else map.file? k

/-- Putting the policy of the last point there once more changes nothing. -/
theorem place_last {points : FilePoints} {last : PolicyPoint}
    (hlast : points.points.getLast? = some last) : points.place last.policy last.offset = points := by
  rw [FilePoints.place_same hlast, ← FilePoints.points_eq_concat hlast]

/-- Recording a policy at the end of a file is what placing one there means. -/
theorem places_record {key : FileKey} {points : FilePoints} {last : PolicyPoint} {offset : Int}
    (hp : map.file? key = some points) (hlast : points.points.getLast? = some last) :
    Places key ref offset map (map.record key last ref offset) := by
  unfold record
  split
  · rename_i hoff
    subst hoff
    split
    · refine ⟨alike_replaceLast _ _ _ _, fun k => ?_⟩
      rw [file?_replaceLast]
      by_cases hk : k = key
      · subst hk
        rw [if_pos rfl, if_pos rfl, hp, Option.map_some, Option.map_some,
          modify_last_points hlast, FilePoints.place_same hlast]
      · rw [if_neg hk, if_neg hk]
    · rename_i hsame
      rw [ne_eq, not_not] at hsame
      subst hsame
      refine ⟨Alike.refl map, fun k => ?_⟩
      by_cases hk : k = key
      · subst hk
        rw [if_pos rfl, hp, Option.map_some, place_last hlast]
      · rw [if_neg hk]
  · rename_i hoff
    refine ⟨alike_pushPoint _ _ _, fun k => ?_⟩
    rw [file?_pushPoint]
    by_cases hk : k = key
    · subst hk
      rw [if_pos rfl, if_pos rfl, hp, Option.map_some, Option.map_some,
        FilePoints.place_later hlast ref hoff]
    · rw [if_neg hk, if_neg hk]

/-- Recording a policy keeps the entries in form. -/
theorem Formed.places {sources : List SourceFile} {id offset : Int} {points : FilePoints}
    {last : PolicyPoint} (h : Formed sources map) (hplaces : Places (some id) ref offset map map')
    (hp : map.file? (some id) = some points) (hlast : points.points.getLast? = some last)
    (ho : last.offset ≤ offset) : Formed sources map' := by
  have hsome : ∀ k file, map.file? k = some file → ∃ file', map'.file? k = some file' := by
    intro k file hk
    rw [hplaces.file?, hk]
    split
    · exact ⟨_, rfl⟩
    · exact ⟨file, rfl⟩
  constructor
  · intro root hroot
    rw [hplaces.file?, if_neg (by simp)] at hroot
    rw [hplaces.first]
    exact h.root root hroot
  · intro i src file hs hfile
    by_cases hi : i = id
    · subst hi
      rw [hplaces.file?, if_pos rfl, hp, Option.map_some, Option.some.injEq] at hfile
      subst hfile
      obtain ⟨hr, hpar, hoff, parent, hparent⟩ := h.entered i src points hs hp
      rw [FilePoints.place_parent, FilePoints.place_parentOffset]
      exact ⟨hr.place hlast ref ho, hpar, hoff, hsome _ parent hparent⟩
    · rw [hplaces.file?, if_neg (by simpa using hi)] at hfile
      obtain ⟨hr, hpar, hoff, parent, hparent⟩ := h.entered i src file hs hfile
      exact ⟨hr, hpar, hoff, hsome _ parent hparent⟩

/-! ## The initial policy -/

/-- The first policy is recorded before any file is entered. -/
theorem appendFirst_ok {ref : PolicyRef} (h : (appendFirst ref).perform map = (.ok (), map')) :
    map'.files = [] ∧ map'.first = some ref := by
  unfold appendFirst at h
  rw [perform_get_bind] at h
  by_cases hc : (!map.files.isEmpty || map.first.isSome) = true
  · rw [if_pos hc, perform_bind_of_error (perform_throw _ _)] at h
    cases h
  · rw [if_neg hc] at h
    cases h
    simp only [Bool.or_eq_true, Bool.not_eq_true', not_or, Bool.not_eq_false,
      List.isEmpty_iff] at hc
    exact ⟨hc.1, rfl⟩

/-- Before any file is entered, the current policy is the initial one. -/
theorem replaceCurrent_of_nil (h : map.files = []) (ref : PolicyRef) :
    (map.replaceCurrent ref).files = [] ∧ (map.replaceCurrent ref).first = some ref := by
  unfold replaceCurrent
  split
  · exact ⟨h, rfl⟩
  · rename_i hc
    simp only [h, List.isEmpty_nil, Bool.true_and, decide_eq_true_eq, ne_eq, not_not] at hc
    exact ⟨h, hc⟩

/-- The policy that is made current is current. -/
theorem replaceCurrent_current (map : PolicyMap) (ref : PolicyRef) :
    (map.replaceCurrent ref).current = some ref := by
  unfold replaceCurrent
  split <;> rfl

/-- Making a policy current changes no entries. -/
theorem replaceCurrent_files (map : PolicyMap) (ref : PolicyRef) :
    (map.replaceCurrent ref).files = map.files := by
  unfold replaceCurrent
  split <;> rfl

/-- Making a policy current moves nothing. -/
theorem replaceCurrent_location (map : PolicyMap) (ref : PolicyRef) :
    (map.replaceCurrent ref).location = map.location := by
  unfold replaceCurrent
  split <;> rfl

/-- Making a policy current does not change what any policy says. -/
theorem policy_replaceCurrent (map : PolicyMap) (ref r : PolicyRef) :
    ((map.replaceCurrent ref).store.get r).policy = (map.store.get r).policy := by
  unfold replaceCurrent
  split
  · dsimp only
    split
    · rw [PolicyStore.policy_release, PolicyStore.policy_retain]
    · rw [PolicyStore.policy_retain]
  · rfl

/-- Making a policy current makes none. -/
theorem size_replaceCurrent (map : PolicyMap) (ref : PolicyRef) :
    (map.replaceCurrent ref).store.size = map.store.size := by
  unfold replaceCurrent
  split
  · dsimp only
    split
    · rw [PolicyStore.size_release, PolicyStore.size_retain]
    · rw [PolicyStore.size_retain]
  · rfl

/-- Making a policy current changes the entry of no file. -/
theorem file?_replaceCurrent (map : PolicyMap) (ref : PolicyRef) (key : FileKey) :
    (map.replaceCurrent ref).file? key = map.file? key := by
  unfold file?
  rw [replaceCurrent_files]

/-! ## Look-ups -/

/-- Entering a file gives its points. -/
theorem perform_enter {id : Int} {points : FilePoints}
    (h : (enterFile table.newestFirst id).perform map = (.ok (), map'))
    (hpts : map'.file? (some id) = some points) :
    (enter table (some id)).perform map = (.ok points, map') := by
  unfold enter
  rw [perform_bind_of_ok h, perform_get_bind, perform_pure, hpts, Option.getD_some]

/-- A location in a known file is decomposed. -/
theorem perform_decompose (hs : FileTable.lookup table.newestFirst loc.file = some source) :
    (ofExcept (LocationService.files.decompose table loc) :
      Action PolicyMap (Int × Int)).perform map = (.ok (loc.file, loc.offset), map) := by
  rw [perform_ofExcept]
  exact congrArg (·, map) (FileTable.decompose_eq_ok hs)

/-- Before any file is entered, the initial policy is found everywhere. -/
theorem perform_lookup_of_nil {service : LocationService} (h : map.files = []) :
    (lookup service table loc).perform map = (.ok map.first, map) := by
  unfold lookup
  simp only [perform_get_bind, h, List.isEmpty_nil, if_true, perform_pure]

/-- A look-up in a known file finds the policy that the points of the file say. -/
theorem exists_lookup (hw : FileTable.WellPlaced table.newestFirst)
    (hm : Formed table.newestFirst map) (hf : map.first = some first) (hne : map.files ≠ [])
    (hs : FileTable.lookup table.newestFirst loc.file = some source) (ho : 0 ≤ loc.offset) :
    ∃ map' points ref, (lookup .files table loc).perform map = (.ok (some ref), map') ∧
      Formed table.newestFirst map' ∧ Discovers table.newestFirst loc.file map map' ∧
        map'.file? (some loc.file) = some points ∧ points.lookup loc.offset = .ok ref := by
  obtain ⟨map', hperf, hm', hd, points, hpts⟩ := exists_enterFile hw hs hm hf
  obtain ⟨ref, hl⟩ := (hm'.entered _ _ _ hs hpts).1.exists_lookup ho
  refine ⟨map', points, ref, ?_, hm', hd, hpts, hl⟩
  have hnil : ¬map.files.isEmpty = true := by simpa using hne
  unfold lookup
  rw [perform_get_bind, if_neg hnil, perform_bind_of_ok (perform_decompose hs),
    perform_bind_of_ok (perform_enter hperf hpts)]
  simp only [hl, perform_bind, perform_ofExcept, perform_pure]

/-- How a look-up succeeds: it gives the initial policy as long as nothing was entered, and afterwards it
reads the points of the file of the location. -/
theorem lookup_eq_ok {service : LocationService} {result : Option PolicyRef}
    (h : (lookup service table loc).perform map = (.ok result, map')) :
    (map.files = [] ∧ result = map.first ∧ map' = map) ∨
      map.files ≠ [] ∧ ∃ found file ref, service.decompose table loc = .ok found ∧
        (enter table (some found.1)).perform map = (.ok file, map') ∧
          file.lookup found.2 = .ok ref ∧ result = some ref := by
  by_cases hnil : map.files = []
  · rw [perform_lookup_of_nil hnil, Prod.mk.injEq, Except.ok.injEq] at h
    exact .inl ⟨hnil, h.1.symm, h.2.symm⟩
  · unfold lookup at h
    rw [perform_get_bind, if_neg (by simpa using hnil)] at h
    obtain ⟨found, _, hread, h⟩ := perform_bind_eq_ok.mp h
    obtain ⟨hdec, rfl⟩ := perform_ofExcept_eq_ok.mp hread
    obtain ⟨file, _, henter, h⟩ := perform_bind_eq_ok.mp h
    obtain ⟨ref, _, hpoint, h⟩ := perform_bind_eq_ok.mp h
    obtain ⟨hl, rfl⟩ := perform_ofExcept_eq_ok.mp hpoint
    rw [perform_pure, Prod.mk.injEq, Except.ok.injEq] at h
    obtain ⟨rfl, rfl⟩ := h
    exact .inr ⟨hnil, found, file, ref, hdec, henter, hl, rfl⟩

/-- Once a file was entered, look-ups succeed in known files only. -/
theorem lookup_known {found : Option PolicyRef} (hne : map.files ≠ [])
    (h : (lookup .files table loc).perform map = (.ok found, map')) :
    ∃ source, FileTable.lookup table.newestFirst loc.file = some source := by
  have hnil : ¬map.files.isEmpty = true := by simpa using hne
  unfold lookup at h
  rw [perform_get_bind, if_neg hnil, perform_bind_eq_ok] at h
  obtain ⟨_, _, hdec, -⟩ := h
  rw [perform_ofExcept, Prod.mk.injEq] at hdec
  exact FileTable.exists_lookup_of_decompose hdec.1

/-! ## Appends -/

/-- An append once the file of its location was entered. -/
theorem perform_append {points : FilePoints} {last : PolicyPoint} {m : PolicyMap}
    (hs : FileTable.lookup table.newestFirst loc.file = some source)
    (hent : (enter table (some loc.file)).perform
      { map with current := some ref, location := some loc } = (.ok points, m))
    (hlast : points.points.getLast? = some last) :
    (append .files table loc ref).perform map =
      if loc.offset < last.offset then
        (.error (.ofDefect (.transitionOutOfOrder loc.offset last.offset loc.file)), m)
      else (.ok (), m.record (some loc.file) last ref loc.offset) := by
  unfold append record
  rw [perform_modify_bind, perform_bind_of_ok (perform_decompose hs), perform_bind_of_ok hent]
  simp only [hlast]
  split
  · rfl
  · split
    · split <;> rfl
    · rfl

/-- An append in a file that has an entry without points. -/
theorem perform_append_of_nil {points : FilePoints} {m : PolicyMap}
    (hs : FileTable.lookup table.newestFirst loc.file = some source)
    (hent : (enter table (some loc.file)).perform
      { map with current := some ref, location := some loc } = (.ok points, m))
    (hnil : points.points = []) :
    (append .files table loc ref).perform map = (.error .indexOutOfRange, m) := by
  unfold append
  rw [perform_modify_bind, perform_bind_of_ok (perform_decompose hs), perform_bind_of_ok hent, hnil]
  rfl

/-- An append in a file that cannot be entered. -/
theorem perform_append_of_error {fault : Fault} {m : PolicyMap}
    (hs : FileTable.lookup table.newestFirst loc.file = some source)
    (hent : (enter table (some loc.file)).perform
      { map with current := some ref, location := some loc } = (.error fault, m)) :
    (append .files table loc ref).perform map = (.error fault, m) := by
  unfold append
  rw [perform_modify_bind, perform_bind_of_ok (perform_decompose hs)]
  exact perform_bind_of_error hent

/-- An append in an unknown file does nothing but make its policy current. -/
theorem perform_append_unknown (hs : FileTable.lookup table.newestFirst loc.file = none)
    (ref : PolicyRef) :
    (append .files table loc ref).perform map =
      (.error (.ofDefect (.fileUnknown loc.file)),
        { map with current := some ref, location := some loc }) := by
  unfold append
  rw [perform_modify_bind]
  refine perform_bind_of_error ?_
  rw [perform_ofExcept, show LocationService.files.decompose table loc = table.decompose loc from rfl,
    FileTable.decompose_eq_error hs]

/-- An append in a known file records its policy at the end of the file, and is refused in front of
the last point of the file. -/
theorem exists_append (hw : FileTable.WellPlaced table.newestFirst)
    (hm : Formed table.newestFirst map) (hf : map.first = some first)
    (hs : FileTable.lookup table.newestFirst loc.file = some source) (ref : PolicyRef) :
    ∃ m points last, Formed table.newestFirst m ∧
      Discovers table.newestFirst loc.file { map with current := some ref, location := some loc } m ∧
      m.file? (some loc.file) = some points ∧ points.points.getLast? = some last ∧
      (append .files table loc ref).perform map =
        if loc.offset < last.offset then
          (.error (.ofDefect (.transitionOutOfOrder loc.offset last.offset loc.file)), m)
        else (.ok (), m.record (some loc.file) last ref loc.offset) := by
  have hm₁ : Formed table.newestFirst
      ({ map with current := some ref, location := some loc } : PolicyMap) := ⟨hm.root, hm.entered⟩
  obtain ⟨m, hperf, hm', hd, points, hpts⟩ := exists_enterFile hw hs hm₁ hf
  have hne := (hm'.entered _ _ _ hs hpts).1.points_ne_nil
  have hlast := List.getLast?_eq_some_getLast hne
  exact ⟨m, points, points.points.getLast hne, hm', hd, hpts, hlast,
    perform_append hs (perform_enter hperf hpts) hlast⟩

/-- An append that was not refused. -/
theorem append_ok (hw : FileTable.WellPlaced table.newestFirst)
    (hm : Formed table.newestFirst map) (hf : map.first = some first)
    (h : (append .files table loc ref).perform map = (.ok (), map')) :
    ∃ m points last source, FileTable.lookup table.newestFirst loc.file = some source ∧
      Formed table.newestFirst m ∧
      Discovers table.newestFirst loc.file { map with current := some ref, location := some loc } m ∧
      m.file? (some loc.file) = some points ∧ points.points.getLast? = some last ∧
      last.offset ≤ loc.offset ∧ Places (some loc.file) ref loc.offset m map' := by
  have hs : ∃ source, FileTable.lookup table.newestFirst loc.file = some source := by
    have h' := h
    unfold append at h'
    rw [perform_modify_bind, perform_bind_eq_ok] at h'
    obtain ⟨found, _, hdec, -⟩ := h'
    rw [perform_ofExcept, Prod.mk.injEq] at hdec
    exact FileTable.exists_lookup_of_decompose hdec.1
  obtain ⟨source, hs⟩ := hs
  obtain ⟨m, points, last, hm', hd, hpts, hlast, hperf⟩ := exists_append hw hm hf hs ref
  rw [h] at hperf
  split at hperf
  · cases hperf
  · rename_i hoff
    rw [Prod.mk.injEq] at hperf
    refine ⟨m, points, last, source, hs, hm', hd, hpts, hlast, by omega, ?_⟩
    rw [hperf.2]
    exact places_record hpts hlast

end Diagnostics.PolicyMap
