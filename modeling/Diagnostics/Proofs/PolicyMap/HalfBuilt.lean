import Diagnostics.Proofs.PolicyMap.Refusal
import Diagnostics.Proofs.PolicyMap.Runs

/-!
# Entries that stay without points

A file that cannot inherit keeps the entry without points that it got before its includers were looked
for, and the file that was met first is the one whose call fails. The location service makes include
points that nothing can be inherited from: the column zero of the first line is in front of the file.

`Misplaced` says of a file that such an include point is its own or that of a file it is included from.
`Sound` is what every call keeps, also one that fails at any depth of the include chain: exactly the
misplaced files have entries without points. It says of some entries that they are still waiting, since
a file waits while its includers are entered.
-/

set_option autoImplicit false

namespace Diagnostics.PolicyMap

open Diagnostics.Action FileTable

variable {sources : List SourceFile} {table : FileTable} {map map' : PolicyMap} {id : Int}
  {source : SourceFile} {points : FilePoints} {loc : Location} {ref : PolicyRef}
  {waiting : Int → Prop}

/-! ## Entries -/

/-- The points that a file has for good: none if it is misplaced, and otherwise ascending ones from
offset zero on. -/
structure Built (sources : List SourceFile) (id : Int) (points : FilePoints) : Prop where
  empty : Misplaced sources id → points.points = []
  rising : ¬Misplaced sources id → points.Rising

/-- The root has the initial policy, and the files that were entered are known ones, with the points
that they have for good unless they are waiting. -/
structure Sound (sources : List SourceFile) (waiting : Int → Prop) (map : PolicyMap) : Prop where
  root : Formed [] map
  initial : ∃ ref, map.first = some ref
  known : ∀ id points, map.file? (some id) = some points →
    ∃ source, FileTable.lookup sources id = some source
  built : ∀ id points, map.file? (some id) = some points → ¬waiting id →
    Built sources id points

/-- Without files, form is a matter of the root and the first policy. -/
theorem Formed.congr_root (h : Formed [] map) (hroot : map'.file? none = map.file? none)
    (hfirst : map'.first = map.first) : Formed [] map' where
  root root hentered := by
    rw [hroot] at hentered
    rw [hfirst]
    exact h.root root hentered
  entered _ _ _ hnil := by cases hnil

/-- Just the misplaced files have no points. -/
theorem Built.points_eq_nil_iff (h : Built sources id points) :
    points.points = [] ↔ Misplaced sources id := by
  constructor
  · intro hnil
    by_contra hplaced
    exact (h.rising hplaced).points_ne_nil hnil
  · exact h.empty

/-- A file has policies behind its start, unless it is misplaced. -/
theorem Built.exists_lookup_iff (h : Built sources id points) {x : Int} :
    (∃ ref, points.lookup x = .ok ref) ↔ ¬Misplaced sources id ∧ 0 ≤ x := by
  constructor
  · rintro ⟨ref, hl⟩
    have hplaced : ¬Misplaced sources id := fun hm => FilePoints.lookup_ne_ok (h.empty hm) hl
    refine ⟨hplaced, ?_⟩
    by_contra hneg
    obtain ⟨fault, hfault⟩ := (h.rising hplaced).lookup_of_neg (by omega : x < 0)
    rw [hl] at hfault
    cases hfault
  · rintro ⟨hplaced, hx⟩
    exact (h.rising hplaced).exists_lookup hx

/-- A map without entries is sound. -/
theorem Sound.of_nil (hfiles : map.files = []) (hfirst : map.first = some ref) :
    Sound sources waiting map where
  root := Formed.of_nil hfiles
  initial := ⟨ref, hfirst⟩
  known id points hp := by
    rw [file?_of_nil hfiles] at hp
    cases hp
  built id points hp := by
    rw [file?_of_nil hfiles] at hp
    cases hp

/-- What a file finds at its include point, once its includer was entered. -/
theorem Sound.inherits_iff (h : Sound sources waiting map)
    (hs : FileTable.lookup sources id = some source)
    (hp : map.file? source.parentKey = some points)
    (hready : ∀ parent, source.parentKey = some parent → ¬waiting parent) :
    (∃ ref, points.lookup source.parentOffset = .ok ref) ↔ ¬Misplaced sources id := by
  rw [misplaced_iff hs]
  cases hkey : source.parentKey with
  | none =>
    -- The root answers at offset zero, from where a top-level file inherits.
    have hat : source.includedAt = none := by
      cases hat : source.includedAt with
      | none => rfl
      | some loc =>
        rw [SourceFile.parentKey_included hat] at hkey
        cases hkey
    have hoff : source.parentOffset = 0 := by
      unfold SourceFile.parentOffset
      rw [hat]
      rfl
    rw [hkey] at hp
    have hfound := (h.root.root_rising hp).exists_lookup (Int.le_refl 0)
    simp [hoff, hfound]
  | some parent =>
    rw [hkey] at hp
    rw [(h.built parent points hp (hready parent hkey)).exists_lookup_iff]
    simp only [Option.some.injEq, exists_eq_left']
    rw [not_or, and_comm, Int.not_lt]

/-! ## Entering files -/

/-- A file that was entered only now waits. -/
theorem Sound.insertFile (h : Sound sources waiting map)
    (hs : FileTable.lookup sources id = some source) :
    Sound sources (fun k => waiting k ∨ k = id) (map.insertFile (some id)) where
  root := h.root.congr_root (file?_insertFile_of_ne (by simp)) rfl
  initial := h.initial
  known k points hp := by
    by_cases hk : k = id
    · exact ⟨source, by rw [hk, hs]⟩
    · rw [file?_insertFile_of_ne (by simpa using hk)] at hp
      exact h.known k points hp
  built k points hp hwaits := by
    rw [not_or] at hwaits
    rw [file?_insertFile_of_ne (by simpa using hwaits.2)] at hp
    exact h.built k points hp hwaits.1

/-- A file stops waiting once it has the points that it has for good. -/
theorem Sound.finish (h : Sound sources (fun k => waiting k ∨ k = id) map)
    (hs : FileTable.lookup sources id = some source) (hfirst : map'.first = map.first)
    (hother : ∀ key, key ≠ some id → map'.file? key = map.file? key)
    (hself : map'.file? (some id) = some points) (hpoints : Built sources id points) :
    Sound sources waiting map' where
  root := h.root.congr_root (hother none (by simp)) hfirst
  initial := by
    rw [hfirst]
    exact h.initial
  known k entry hp := by
    by_cases hk : k = id
    · exact ⟨source, by rw [hk, hs]⟩
    · rw [hother _ (by simpa using hk)] at hp
      exact h.known k entry hp
  built k entry hp hwaits := by
    by_cases hk : k = id
    · rw [hk, hself, Option.some.injEq] at hp
      rw [← hp, hk]
      exact hpoints
    · rw [hother _ (by simpa using hk)] at hp
      exact h.built k entry hp (not_or.mpr ⟨hwaits, hk⟩)

/-- A waiting file gets its first point from the entry of its include point, or stays without points for
good. -/
theorem Sound.inherit {parent : FilePoints} (h : Sound sources (fun k => waiting k ∨ k = id) map)
    (hs : FileTable.lookup sources id = some source) (hself : map.file? (some id) = some {})
    (hp : map.file? source.parentKey = some parent)
    (hready : ∀ k, source.parentKey = some k → ¬(waiting k ∨ k = id)) :
    Ends (inherit id source.parentKey source.parentOffset) map
      (fun _ map' => Sound sources waiting map' ∧ ∃ points, map'.file? (some id) = some points)
      fun _ map' => Sound sources waiting map' ∧ Misplaced sources id := by
  have hne : source.parentKey ≠ some id := fun hkey => hready id hkey (.inr rfl)
  have hinherits := h.inherits_iff hs hp hready
  by_cases hm : Misplaced sources id
  · unfold PolicyMap.inherit
    apply ends_modify_bind
    apply ends_get_bind
    apply ends_bind
    rw [file?_updateFile, if_neg hne, hp, Option.getD_some]
    apply ends_ofExcept
    · intro ref hl
      exact absurd hm (hinherits.mp ⟨ref, hl⟩)
    · intro fault hl
      have hwaits : (map.updateFile (some id) fun file =>
          { file with parent := some source.parentKey, parentOffset := source.parentOffset }).file?
            (some id) = some ⟨some source.parentKey, source.parentOffset, []⟩ := by
        rw [file?_updateFile, if_pos rfl, hself]
        rfl
      refine ⟨h.finish hs rfl (fun key hkey => ?_) hwaits ⟨fun _ => rfl, fun hplaced => ?_⟩, hm⟩
      · rw [file?_updateFile, if_neg hkey]
      · exact absurd hm hplaced
  · obtain ⟨ref, hl⟩ := hinherits.mpr hm
    have hdone : (map.complete id source.parentKey source.parentOffset ref).file? (some id) =
        some ⟨some source.parentKey, source.parentOffset, [⟨ref, 0⟩]⟩ := file?_complete_self hself
    refine ends_of_ok (perform_inherit hp hne hl) ⟨?_, _, hdone⟩
    refine h.finish hs rfl (fun key hkey => file?_complete_of_ne hkey) hdone ⟨fun hm' => ?_, fun _ => ?_⟩
    · exact absurd hm' hm
    · exact FilePoints.rising_singleton rfl

/-- Entering the root cannot fail, and adds no other entry. -/
theorem Sound.enterRoot (h : Sound sources waiting map) :
    Ends enterRoot map
      (fun _ map' => Sound sources waiting map' ∧ ∃ root, map'.file? none = some root)
      fun _ _ => False := by
  obtain ⟨first, hfirst⟩ := h.initial
  obtain ⟨map', hperf, hroot, hd, hentered⟩ : ∃ map', PolicyMap.enterRoot.perform map = (.ok (), map') ∧
      Formed [] map' ∧ Discovers [] 0 map map' ∧ ∃ root, map'.file? none = some root :=
    exists_enterRoot h.root hfirst
  have hold : ∀ id points, map'.file? (some id) = some points →
      map.file? (some id) = some points := by
    intro id points hp
    cases hold : map.file? (some id) with
    | none =>
      obtain ⟨-, _, _, _, hnil, -⟩ := hd.fresh id points hold hp
      cases hnil
    | some old => rw [← hd.kept _ old hold, hp]
  refine ends_of_ok hperf ⟨⟨hroot, ⟨first, hd.first.trans hfirst⟩, ?_, ?_⟩, hentered⟩
  · exact fun id points hp => h.known id points (hold id points hp)
  · exact fun id points hp => h.built id points (hold id points hp)

/-- Entering a file leaves it with an entry, or fails because it is misplaced. -/
def EntersUnlessMisplaced (sources : List SourceFile) (waiting : Int → Prop) (map : PolicyMap)
    (id : Int) : Prop :=
  Ends (enterFile sources id) map
    (fun _ map' => Sound sources waiting map' ∧ ∃ points, map'.file? (some id) = some points)
    fun _ map' => Sound sources waiting map' ∧ Misplaced sources id

/-- A file whose includer cannot be entered is misplaced as well. -/
theorem Sound.enterParent (h : Sound sources waiting map)
    (hs : FileTable.lookup sources id = some source)
    (hincluder : ∀ parent, source.parentKey = some parent →
      EntersUnlessMisplaced sources waiting map parent) :
    Ends (enterParent sources source) map
      (fun _ map' => Sound sources waiting map' ∧
        ∃ parent, map'.file? source.parentKey = some parent)
      fun _ map' => Sound sources waiting map' ∧ Misplaced sources id := by
  unfold PolicyMap.enterParent
  cases hat : source.includedAt with
  | none =>
    rw [SourceFile.parentKey_topLevel hat]
    exact h.enterRoot.imp (fun _ _ hm => hm) fun _ _ hfailed => hfailed.elim
  | some at_ =>
    have hkey := SourceFile.parentKey_included hat
    rw [hkey]
    refine (hincluder _ hkey).imp (fun _ _ hm => hm) fun _ _ hfailed => ?_
    exact ⟨hfailed.1, .above hs hkey hfailed.2⟩

/-- Entering a known file fails if it is misplaced and was not entered before. Of its includers all are
entered that can be, and the others stay without points as it does. -/
theorem Sound.enterFile (hl : Linked sources) (hs : FileTable.lookup sources id = some source)
    (hnewer : ∀ k, waiting k → id < k) (h : Sound sources waiting map) :
    EntersUnlessMisplaced sources waiting map id := by
  -- The induction is along the include chain; what waits has been met before and is newer.
  refine hl.induction (P := fun id => ∀ waiting map, (∀ k, waiting k → id < k) →
    Sound sources waiting map → EntersUnlessMisplaced sources waiting map id)
    ?_ id source hs waiting map hnewer h
  clear hs hnewer h
  intro id source hs ih waiting map hnewer h
  cases hent : map.file? (some id) with
  | some points => exact ends_of_ok (enterFile_entered ⟨source, hs⟩ hent) ⟨h, points, hent⟩
  | none =>
    have hwaits := h.insertFile hs
    have holder : ∀ k, source.parentKey = some k → k < id := fun k hkey =>
      (hl.parent_lookup hs hkey).1
    have hparent := hwaits.enterParent hs fun parent hkey => by
      refine ih parent hkey _ _ ?_ hwaits
      rintro k (hk | rfl)
      · exact Int.lt_trans (holder parent hkey) (hnewer k hk)
      · exact holder parent hkey
    have hkept : ∀ r m,
        (PolicyMap.enterParent sources source).perform (map.insertFile (some id)) = (r, m) →
          m.file? (some id) = some {} := by
      intro r m hperf
      have hgrown := (grown_enterParent sources source (map.insertFile (some id))).of_total
      rw [hperf] at hgrown
      exact hgrown.file? (file?_insertFile_self hent)
    unfold EntersUnlessMisplaced
    rw [ends_congr (perform_enterFile hl hs hent)]
    apply ends_bind
    rw [ends_iff] at hparent ⊢
    constructor
    · intro _ m hperf
      obtain ⟨hm, parent, hp⟩ := hparent.1 _ m hperf
      refine hm.inherit hs (hkept _ m hperf) hp ?_
      rintro k hkey (hk | rfl)
      · have := holder k hkey
        have := hnewer k hk
        omega
      · exact Int.lt_irrefl _ (holder k hkey)
    · intro fault m hperf
      obtain ⟨hm, hmisplaced⟩ := hparent.2 fault m hperf
      refine ⟨hm.finish hs rfl (fun _ _ => rfl) (hkept _ m hperf) ⟨fun _ => rfl, fun hplaced => ?_⟩,
        hmisplaced⟩
      exact absurd hmisplaced hplaced

/-- Entering a file keeps a map sound, also where it fails. -/
theorem Sound.enter (hl : Linked table.newestFirst)
    (hs : FileTable.lookup table.newestFirst id = some source)
    (h : Sound table.newestFirst (fun _ => False) map) :
    Ends (enter table (some id)) map
      (fun points map' => Sound table.newestFirst (fun _ => False) map' ∧
        map'.file? (some id) = some points)
      fun _ map' => Sound table.newestFirst (fun _ => False) map' := by
  unfold PolicyMap.enter
  apply ends_bind
  refine (h.enterFile hl hs fun _ hfalse => hfalse.elim).imp ?_ fun _ _ hfailed => hfailed.1
  rintro _ map' ⟨h', points, hp⟩
  apply ends_get_bind
  rw [hp, Option.getD_some]
  exact ends_pure ⟨h', hp⟩

/-! ## Calls -/

/-- Soundness depends on the entries and the first policy only. -/
theorem Sound.of_same (h : Sound sources waiting map) (hfiles : map'.files = map.files)
    (hfirst : map'.first = map.first) : Sound sources waiting map' := by
  have hfile : ∀ key, map'.file? key = map.file? key := fun key => by
    unfold PolicyMap.file?
    rw [hfiles]
  constructor
  · exact h.root.congr_root (hfile none) hfirst
  · rw [hfirst]
    exact h.initial
  · simp only [hfile]
    exact h.known
  · simp only [hfile]
    exact h.built

/-- Which policy is current does not matter to soundness. -/
theorem Sound.replaceCurrent (h : Sound sources waiting map) (ref : PolicyRef) :
    Sound sources waiting (map.replaceCurrent ref) where
  root := h.root.replaceCurrent ref
  initial := exists_first_replaceCurrent h.initial ref
  known := by
    simp only [file?_replaceCurrent]
    exact h.known
  built := by
    simp only [file?_replaceCurrent]
    exact h.built

/-- An added file is not entered yet, and does not misplace those that are. -/
theorem Sound.addFile {file : SourceFile} (hl : Linked sources) (h : Sound sources waiting map) :
    Sound (file :: sources) waiting map where
  root := h.root
  initial := h.initial
  known id points hp := by
    obtain ⟨source, hs⟩ := h.known id points hp
    exact ⟨source, lookup_cons_of_lookup hs⟩
  built id points hp hwaits := by
    obtain ⟨source, hs⟩ := h.known id points hp
    have hsame : Misplaced (file :: sources) id ↔ Misplaced sources id := misplaced_cons_iff hl hs
    have hbuilt := h.built id points hp hwaits
    exact ⟨fun hm => hbuilt.empty (hsame.mp hm), fun hm => hbuilt.rising (mt hsame.mpr hm)⟩

/-- Recording a policy at the end of a file that has points. -/
theorem Sound.places {last : PolicyPoint} {offset : Int} (h : Sound sources (fun _ => False) map)
    (hplaces : Places (some id) ref offset map map') (hp : map.file? (some id) = some points)
    (hlast : points.points.getLast? = some last) (ho : last.offset ≤ offset) :
    Sound sources (fun _ => False) map' := by
  obtain ⟨source, hs⟩ := h.known id points hp
  have hplaced : ¬Misplaced sources id := by
    intro hm
    rw [(h.built id points hp not_false).empty hm] at hlast
    cases hlast
  have hwaits : Sound sources (fun k => False ∨ k = id) map :=
    ⟨h.root, h.initial, h.known, fun k entry hentry _ => h.built k entry hentry not_false⟩
  have hself : map'.file? (some id) = some (points.place ref offset) := by
    rw [hplaces.file?, if_pos rfl, hp, Option.map_some]
  refine hwaits.finish hs hplaces.first (fun key hkey => ?_) hself ?_
  · rw [hplaces.file?, if_neg hkey]
  · exact ⟨fun hm => absurd hm hplaced,
      fun _ => ((h.built id points hp not_false).rising hplaced).place hlast ref ho⟩

/-- A look-up leaves the points that files have for good, whether it fails or not. -/
theorem Sound.lookup (h : Sound table.newestFirst (fun _ => False) map)
    (hl : Linked table.newestFirst) (loc : Location) :
    EndsIn true (Sound table.newestFirst fun _ => False) map (lookup .files table loc) := by
  unfold PolicyMap.lookup
  apply endsIn_get_bind
  split
  · exact endsIn_get_bind (endsIn_pure _ h)
  · refine endsIn_bind (endsIn_ofExcept _ h) fun found map₁ hperf _ => ?_
    obtain ⟨hdec, rfl⟩ := perform_ofExcept_eq_ok.mp hperf
    obtain ⟨source, hs⟩ := FileTable.exists_lookup_of_decompose hdec
    have hfound : found = (loc.file, loc.offset) := decompose_eq hdec
    rw [hfound]
    have hent := (h.enter hl hs).imp (fun _ _ hm => hm.1) fun _ _ hm => hm
    refine endsIn_bind (fun _ => hent.total) fun _ map₂ _ h₂ => ?_
    exact keeps_bind (keeps_ofExcept _) (fun _ => keeps_pure _) map₂ h₂

/-- An append leaves the points that files have for good, wherever it fails. -/
theorem Sound.append (h : Sound table.newestFirst (fun _ => False) map)
    (hl : Linked table.newestFirst) (loc : Location) (ref : PolicyRef) :
    EndsIn true (Sound table.newestFirst fun _ => False) map (append .files table loc ref) := by
  have hcur : Sound table.newestFirst (fun _ => False)
      { map with current := some ref, location := some loc } := h.of_same rfl rfl
  cases hs : FileTable.lookup table.newestFirst loc.file with
  | none => exact endsIn_of_perform (perform_append_unknown hs ref) hcur
  | some source =>
    have hends := hcur.enter hl hs
    rcases hent : (PolicyMap.enter table (some loc.file)).perform
        { map with current := some ref, location := some loc } with ⟨fault | points, m⟩
    · exact endsIn_of_perform (perform_append_of_error hs hent) (hends.of_error hent)
    · obtain ⟨hm, hp⟩ := hends.of_ok hent
      cases hlast : points.points.getLast? with
      | none =>
        rw [List.getLast?_eq_none_iff] at hlast
        exact endsIn_of_perform (perform_append_of_nil hs hent hlast) hm
      | some last =>
        have hperf := perform_append hs hent hlast
        by_cases hlt : loc.offset < last.offset
        · rw [if_pos hlt] at hperf
          exact endsIn_of_perform hperf hm
        · rw [if_neg hlt] at hperf
          exact endsIn_of_perform hperf (hm.places (places_record hp hlast) hp hlast (by omega))

/-- In an entered file appends fail for lack of points exactly if it is misplaced. -/
theorem Sound.append_lacks_iff (h : Sound table.newestFirst (fun _ => False) map) (loc : Location)
    (hp : map.file? (some loc.file) = some points) (ref : PolicyRef) :
    ((PolicyMap.append .files table loc ref).perform map).1 = .error .indexOutOfRange ↔
      Misplaced table.newestFirst loc.file := by
  obtain ⟨source, hs⟩ := h.known _ _ hp
  have hent : (PolicyMap.enter table (some loc.file)).perform
      { map with current := some ref, location := some loc } =
      (.ok points, { map with current := some ref, location := some loc }) :=
    perform_enter_entered hp
  rw [← (h.built _ _ hp not_false).points_eq_nil_iff]
  constructor
  · intro hlacks
    cases hlast : points.points.getLast? with
    | none => exact List.getLast?_eq_none_iff.mp hlast
    | some last =>
      rw [perform_append hs hent hlast] at hlacks
      split at hlacks <;> cases hlacks
  · intro hnil
    rw [perform_append_of_nil hs hent hnil]

/-- In an entered file look-ups fail for lack of points exactly if it is misplaced, and in front of it. -/
theorem Sound.lookup_lacks_iff (h : Sound table.newestFirst (fun _ => False) map) (loc : Location)
    (hp : map.file? (some loc.file) = some points) :
    ((PolicyMap.lookup .files table loc).perform map).1 = .error (.ofDefect .initialStateMissing) ↔
      Misplaced table.newestFirst loc.file ∨ loc.offset < 0 := by
  obtain ⟨source, hs⟩ := h.known _ _ hp
  have hdec : LocationService.files.decompose table loc = .ok (loc.file, loc.offset) :=
    FileTable.decompose_eq_ok hs
  have hfound := (h.built _ _ hp not_false).exists_lookup_iff (x := loc.offset)
  rw [← not_iff_not, not_or, Int.not_lt, ← hfound, perform_lookup_entered hp, hdec]
  cases hl : points.lookup loc.offset with
  | error fault => simp [FilePoints.lookup_eq_error hl, Except.map, Except.bind]
  | ok ref => simp [Except.map, Except.bind]

/-! ## Runs -/

/-- The runs on a map over a file table, as in `Run`, but with files that are included from wherever the
location service can point to. -/
inductive FreeRun : FileTable → PolicyMap → Prop
  | start (store : PolicyStore) (ref : PolicyRef) :
      FreeRun {} ((appendFirst ref).perform { store }).2
  | restart {table : FileTable} {map : PolicyMap} (run : FreeRun table map) (ref : PolicyRef) :
      FreeRun table ((appendFirst ref).perform map.clear).2
  | addFile {table table' : FileTable} {map : PolicyMap} {name text : String}
      {includedAt : Option Location} {id : Int} (run : FreeRun table map)
      (made : ∀ loc, includedAt = some loc → table.Makes loc)
      (call : table.add name text includedAt = .ok (id, table')) : FreeRun table' map
  | makePolicies {table : FileTable} {map : PolicyMap} (run : FreeRun table map)
      (store : PolicyStore) : FreeRun table { map with store }
  | replaceCurrent {table : FileTable} {map : PolicyMap} (run : FreeRun table map)
      (ref : PolicyRef) : FreeRun table (map.replaceCurrent ref)
  | lookup {table : FileTable} {map : PolicyMap} (run : FreeRun table map) (loc : Location) :
      FreeRun table ((lookup .files table loc).perform map).2
  | append {table : FileTable} {map : PolicyMap} (run : FreeRun table map) (loc : Location)
      (ref : PolicyRef) : FreeRun table ((append .files table loc ref).perform map).2

/-- Every map that is reached is sound. -/
theorem FreeRun.sound (h : FreeRun table map) :
    Linked table.newestFirst ∧ Sound table.newestFirst (fun _ => False) map := by
  induction h with
  | start store ref => exact ⟨trivial, .of_nil rfl rfl⟩
  | restart run ref ih => exact ⟨ih.1, .of_nil rfl rfl⟩
  | addFile run made call ih =>
    refine ⟨ih.1.add call, ?_⟩
    rw [(FileTable.add_eq_ok call).1]
    exact ih.2.addFile ih.1
  | makePolicies run store ih => exact ⟨ih.1, ih.2.of_same rfl rfl⟩
  | replaceCurrent run ref ih => exact ⟨ih.1, ih.2.replaceCurrent ref⟩
  | lookup run loc ih => exact ⟨ih.1, (ih.2.lookup ih.1 loc).of_total⟩
  | append run loc ref ih => exact ⟨ih.1, (ih.2.append ih.1 loc ref).of_total⟩

/-- After every run, whatever failed on the way, the root has points, and an entered file has none exactly
if it is misplaced. Then, and only then, later appends there fail for lack of one; later look-ups fail for
lack of one there, and in front of any file. -/
theorem half_built_iff (h : FreeRun table map) :
    (∀ root, map.file? none = some root → root.points ≠ []) ∧
      ∀ id points, map.file? (some id) = some points →
        (points.points = [] ↔ Misplaced table.newestFirst id) ∧
        (∀ offset ref, ((append .files table ⟨id, offset⟩ ref).perform map).1 =
          .error .indexOutOfRange ↔ Misplaced table.newestFirst id) ∧
        ∀ offset, ((lookup .files table ⟨id, offset⟩).perform map).1 =
          .error (.ofDefect .initialStateMissing) ↔ Misplaced table.newestFirst id ∨ offset < 0 := by
  obtain ⟨-, hm⟩ := h.sound
  refine ⟨fun root hroot => (hm.root.root_rising hroot).points_ne_nil, fun id points hp => ?_⟩
  refine ⟨(hm.built id points hp not_false).points_eq_nil_iff, fun offset ref => ?_, fun offset => ?_⟩
  · exact hm.append_lacks_iff ⟨id, offset⟩ hp ref
  · exact hm.lookup_lacks_iff ⟨id, offset⟩ hp

/-- A run that adds a header at the column zero of the first line. -/
theorem freeRun_stray : FreeRun ⟨[⟨"a.h", "", some ⟨1, -1⟩⟩, ⟨"main.c", "", none⟩]⟩
    ((appendFirst 0).perform {}).2 := by
  have hmain : FreeRun ⟨[⟨"main.c", "", none⟩]⟩ ((appendFirst 0).perform {}).2 :=
    @FreeRun.addFile {} _ _ "main.c" "" none _ (.start {} 0) (by rintro _ ⟨⟩) rfl
  exact @FreeRun.addFile _ _ _ "a.h" "" (some ⟨1, -1⟩) _ hmain
    (by rintro _ ⟨⟩; exact makes_iff.mpr ⟨_, rfl⟩) rfl

/-- A header at the column zero of the first line, one that it includes, and one in its proper place. -/
def strayTable : FileTable :=
  ⟨[⟨"c.h", "", some ⟨1, 3⟩⟩, ⟨"b.h", "", some ⟨2, 4⟩⟩, ⟨"a.h", "", some ⟨1, -1⟩⟩, ⟨"main.c", "", none⟩]⟩

/-- An append that fails two files above, then one in the header that is in its proper place. -/
theorem half_built_above : ∃ map above beside, FreeRun strayTable map ∧
    map.file? (some 3) = some above ∧ above.points = [] ∧ Misplaced strayTable.newestFirst 3 ∧
    map.file? (some 4) = some beside ∧ beside.points ≠ [] ∧
    ((append .files strayTable ⟨4, 9⟩ 6).perform map).1 ≠ .error .indexOutOfRange := by
  have hbelow : FreeRun ⟨[⟨"b.h", "", some ⟨2, 4⟩⟩, ⟨"a.h", "", some ⟨1, -1⟩⟩, ⟨"main.c", "", none⟩]⟩ _ :=
    @FreeRun.addFile _ _ _ "b.h" "" (some ⟨2, 4⟩) _ freeRun_stray
      (by rintro _ ⟨⟩; exact makes_iff.mpr ⟨_, rfl⟩) rfl
  have htable : FreeRun strayTable _ :=
    @FreeRun.addFile _ _ _ "c.h" "" (some ⟨1, 3⟩) _ hbelow
      (by rintro _ ⟨⟩; exact makes_iff.mpr ⟨_, rfl⟩) rfl
  have hrun := (htable.append ⟨3, 2⟩ 7).append ⟨4, 1⟩ 8
  have habove := (half_built_iff hrun).2 3 _ rfl
  have hbeside := (half_built_iff hrun).2 4 _ rfl
  have hplaced : ¬Misplaced strayTable.newestFirst 4 := mt hbeside.1.mpr (List.cons_ne_nil _ _)
  exact ⟨_, _, _, hrun, rfl, rfl, habove.1.mp rfl, rfl, List.cons_ne_nil _ _,
    mt (hbeside.2.1 9 6).mp hplaced⟩

/-- The service makes an include point in front of the first file; the append in the header that is
included there fails, and leaves an entry without points for later appends and look-ups to fail in. -/
theorem half_built_left : ∃ table map points, FreeRun table map ∧
    FileTable.locationAt ⟨[⟨"main.c", "", none⟩]⟩ 1 1 0 = .ok ⟨1, -1⟩ ∧
    table.newestFirst = [⟨"a.h", "", some ⟨1, -1⟩⟩, ⟨"main.c", "", none⟩] ∧
    map.file? (some 2) = some points ∧ points.points = [] ∧
    ((append .files table ⟨2, 5⟩ 8).perform map).1 = .error .indexOutOfRange ∧
    ((lookup .files table ⟨2, 5⟩).perform map).1 = .error (.ofDefect .initialStateMissing) := by
  exact ⟨_, _, _, freeRun_stray.append ⟨2, 0⟩ 7, by decide +kernel, rfl, rfl, rfl, rfl, rfl⟩

end Diagnostics.PolicyMap
