import Diagnostics.Proofs.FileTable
import Diagnostics.Proofs.Outcome
import Diagnostics.Proofs.PolicyMap.Points

/-!
# Discovery of files

Entering a file enters its includers first, back to the root, and gives every new entry one point: what
the entry of its include point has there at that moment. Entries that were there before stay as they
are, also those of newer files that are still waiting for their first point.

`Formed` is what the entries look like when nothing is being entered, `Discovers` relates the maps
before and after. With all include points well placed, entering a known file cannot fail.
-/

set_option autoImplicit false

namespace Diagnostics.PolicyMap

open Diagnostics.Action

/-! ## Entries -/

/-- The root entry has the initial policy only, and the entries of the given files have a point at
offset zero and further ones behind it, and hang off the entry of their include point. -/
structure Formed (sources : List SourceFile) (map : PolicyMap) : Prop where
  root : ∀ file, map.file? none = some file →
    ∃ ref, map.first = some ref ∧ file.points = [⟨ref, 0⟩]
  entered : ∀ id source file, FileTable.lookup sources id = some source →
    map.file? (some id) = some file →
      file.Rising ∧ file.parent = some source.parentKey ∧
        file.parentOffset = source.parentOffset ∧ ∃ parent, map.file? source.parentKey = some parent

/-- The effect of entering a file and its includers: old entries are kept, a new one inherits from its
include point. -/
structure Discovers (sources : List SourceFile) (entered : Int) (map map' : PolicyMap) : Prop
    extends Alike map map' where
  kept : ∀ key file, map.file? key = some file → map'.file? key = some file
  fresh : ∀ id file, map.file? (some id) = none → map'.file? (some id) = some file →
    id ≤ entered ∧ ∃ source parent ref, FileTable.lookup sources id = some source ∧
      map'.file? source.parentKey = some parent ∧
        parent.lookup source.parentOffset = .ok ref ∧ file.points = [⟨ref, 0⟩]

variable {file : SourceFile} {older sources : List SourceFile} {target : Int}
  {map map' : PolicyMap}

/-- A map without entries is in form. -/
theorem Formed.of_nil (hfiles : map.files = []) : Formed sources map where
  root points hp := by
    rw [file?_of_nil hfiles] at hp
    cases hp
  entered id source points _ hp := by
    rw [file?_of_nil hfiles] at hp
    cases hp

/-- The points of the root are ascending. -/
theorem Formed.root_rising (h : Formed sources map) {root : FilePoints}
    (hroot : map.file? none = some root) : root.Rising := by
  obtain ⟨ref, -, hpts⟩ := h.root root hroot
  exact FilePoints.rising_singleton hpts

/-- A map is in form over the older files too. -/
theorem Formed.tail (h : Formed (file :: older) map) : Formed older map where
  root := h.root
  entered id source points hs := h.entered id source points (FileTable.lookup_cons_of_lookup hs)

/-- Nothing needs to be discovered for a file that is known already. -/
theorem Discovers.refl (sources : List SourceFile) (target : Int) (map : PolicyMap) :
    Discovers sources target map map where
  toAlike := Alike.refl map
  kept _ _ h := h
  fresh id points h h' := by
    rw [h] at h'
    cases h'

/-- A newer file does not matter to a discovery. -/
theorem Discovers.cons (h : Discovers older target map map') :
    Discovers (file :: older) target map map' where
  toAlike := h.toAlike
  kept := h.kept
  fresh id points hn hp := by
    obtain ⟨hle, source, parent, ref, hs, hrest⟩ := h.fresh id points hn hp
    exact ⟨hle, source, parent, ref, FileTable.lookup_cons_of_lookup hs, hrest⟩

/-- Entering older files does nothing to the entry of the latest one. -/
theorem Formed.of_discovers (h : Formed (file :: older) map) (h' : Formed older map')
    (hd : Discovers older target map map') : Formed (file :: older) map' where
  root := h'.root
  entered id source points hs hp := by
    rcases FileTable.lookup_cons_cases hs with ⟨rfl, rfl⟩ | hs'
    · cases hold : map.file? (some ((older.length : Int) + 1)) with
      | none =>
        obtain ⟨-, _, _, _, hs', -⟩ := hd.fresh _ points hold hp
        have := FileTable.lookup_bounds hs'
        omega
      | some old =>
        have hkept := hd.kept _ old hold
        rw [hp, Option.some.injEq] at hkept
        subst hkept
        obtain ⟨hr, hpar, hoff, parent, hparent⟩ := h.entered _ source points hs hold
        exact ⟨hr, hpar, hoff, parent, hd.kept _ parent hparent⟩
    · exact h'.entered id source points hs' hp

/-! ## The root -/

/-- A new entry is found, and has no points. -/
theorem file?_insertFile_self {key : FileKey} (h : map.file? key = none) :
    (map.insertFile key).file? key = some {} := by
  rw [file?_insertFile, h, if_pos rfl, Option.none_or]

/-- The entries of other keys are found as before. -/
theorem file?_insertFile_of_ne {key k : FileKey} (h : k ≠ key) :
    (map.insertFile key).file? k = map.file? k := by
  rw [file?_insertFile, if_neg h, Option.or_none]

/-- An entry that was there is found as before. -/
theorem file?_insertFile_kept {key k : FileKey} {points : FilePoints}
    (h : map.file? k = some points) : (map.insertFile key).file? k = some points := by
  rw [file?_insertFile, h, Option.some_or]

/-- Entering the root cannot fail once there is an initial policy. -/
theorem exists_enterRoot {ref : PolicyRef} (h : Formed sources map) (hf : map.first = some ref) :
    ∃ map', enterRoot.perform map = (.ok (), map') ∧ Formed sources map' ∧
      Discovers sources target map map' ∧ ∃ root, map'.file? none = some root := by
  cases hroot : map.file? none with
  | some root =>
    refine ⟨map, ?_, h, Discovers.refl sources target map, root, hroot⟩
    simp [enterRoot, hroot]
  | none =>
    -- The root gets an entry and its only point; all other entries stay as they are.
    have hnone : ((map.insertFile none).pushPoint none ⟨ref, 0⟩).file? none =
        some { points := [⟨ref, 0⟩] } := by
      rw [file?_pushPoint, if_pos rfl, file?_insertFile_self hroot]
      rfl
    have hsome : ∀ id, ((map.insertFile none).pushPoint none ⟨ref, 0⟩).file? (some id) =
        map.file? (some id) := by
      intro id
      rw [file?_pushPoint, if_neg (by simp), file?_insertFile_of_ne (by simp)]
    refine ⟨(map.insertFile none).pushPoint none ⟨ref, 0⟩, ?_, ?_, ?_, _, hnone⟩
    · have hfirst : (map.insertFile none).first = some ref := hf
      simp [enterRoot, hroot, hfirst]
    · constructor
      · intro points hp
        rw [hnone, Option.some.injEq] at hp
        exact ⟨ref, hf, by rw [← hp]⟩
      · intro id source points hs hp
        rw [hsome] at hp
        obtain ⟨hr, hpar, hoff, parent, hparent⟩ := h.entered id source points hs hp
        refine ⟨hr, hpar, hoff, ?_⟩
        cases hk : source.parentKey with
        | none => exact ⟨_, hnone⟩
        | some key =>
          rw [hk] at hparent
          exact ⟨parent, by rw [hsome, hparent]⟩
    · refine ⟨(alike_insertFile map none).trans (alike_pushPoint _ _ _), ?_, ?_⟩
      · rintro (_ | id) points hp
        · rw [hroot] at hp
          cases hp
        · rw [hsome, hp]
      · intro id points hn hp
        rw [hsome, hn] at hp
        cases hp

/-! ## Files -/

/-- Enters what a file inherits from. -/
def enterParent (older : List SourceFile) (file : SourceFile) : Action PolicyMap Unit :=
  match file.includedAt with
  | none => enterRoot
  | some loc => enterFile older loc.file

/-- The first point of a file. -/
def complete (map : PolicyMap) (id : Int) (parent : FileKey) (offset : Int) (ref : PolicyRef) :
    PolicyMap :=
  (map.updateFile (some id) fun points =>
    { points with parent := some parent, parentOffset := offset }).pushPoint (some id) ⟨ref, 0⟩

/-- The latest file, unless it was entered, is entered after what it inherits from. -/
theorem enterFile_latest (h : map.file? (some (older.length + 1)) = none) :
    (enterFile (file :: older) (older.length + 1)).perform map =
      (enterParent older file >>= fun _ =>
        inherit (older.length + 1) file.parentKey file.parentOffset).perform
          (map.insertFile (some (older.length + 1))) := by
  unfold enterFile enterParent SourceFile.parentKey SourceFile.parentOffset
  rw [if_pos rfl]
  cases file.includedAt <;> simp [h]

/-- Entering a file that has an entry does nothing. -/
theorem enterFile_entered {id : Int} (hs : ∃ source, FileTable.lookup sources id = some source)
    {points : FilePoints} (h : map.file? (some id) = some points) :
    (enterFile sources id).perform map = (.ok (), map) := by
  induction sources with
  | nil =>
    obtain ⟨source, hs⟩ := hs
    cases hs
  | cons file older ih =>
    unfold enterFile
    by_cases hid : id = older.length + 1
    · simp [hid, hid ▸ h]
    · rw [if_neg hid]
      apply ih
      obtain ⟨source, hs⟩ := hs
      rw [FileTable.lookup_cons_of_ne hid] at hs
      exact ⟨source, hs⟩

/-- A file can inherit from an entry that has a policy at its include point. -/
theorem perform_inherit {id : Int} {parent : FileKey} {offset : Int} {points : FilePoints}
    {ref : PolicyRef} (hp : map.file? parent = some points) (hne : parent ≠ some id)
    (hl : points.lookup offset = .ok ref) :
    (inherit id parent offset).perform map = (.ok (), map.complete id parent offset ref) := by
  unfold inherit complete
  simp [hne, hp, hl, perform_bind]

/-- A completed file has its parent and a first point. -/
theorem file?_complete_self {id : Int} {parent : FileKey} {offset : Int} {ref : PolicyRef}
    {points : FilePoints} (h : map.file? (some id) = some points) :
    (map.complete id parent offset ref).file? (some id) =
      some ⟨some parent, offset, points.points ++ [⟨ref, 0⟩]⟩ := by
  simp [complete, h]

/-- Completing a file leaves the others alone. -/
theorem file?_complete_of_ne {id : Int} {parent k : FileKey} {offset : Int} {ref : PolicyRef}
    (h : k ≠ some id) : (map.complete id parent offset ref).file? k = map.file? k := by
  simp [complete, h]

/-- An entry that still waits for its first point is no entry of an older file. -/
theorem Formed.insertFile_latest (h : Formed (file :: older) map) :
    Formed older (map.insertFile (some (older.length + 1))) where
  root points hp := by
    rw [file?_insertFile_of_ne (by simp)] at hp
    exact h.root points hp
  entered id source points hs hp := by
    have := FileTable.lookup_bounds hs
    rw [file?_insertFile_of_ne (by simp; omega)] at hp
    obtain ⟨hr, hpar, hoff, parent, hparent⟩ :=
      h.entered id source points (FileTable.lookup_cons_of_lookup hs) hp
    exact ⟨hr, hpar, hoff, parent, file?_insertFile_kept hparent⟩

/-- No file is included from itself or a newer one. -/
theorem parentKey_ne (hw : FileTable.WellPlaced sources) {id : Int} {source : SourceFile}
    (hs : FileTable.lookup sources id = some source) {key : Int} (hle : id ≤ key) :
    source.parentKey ≠ some key := by
  intro hkey
  have := (hw.parent_lookup hs hkey).1
  omega

section Latest

variable {m : PolicyMap} {parent : FilePoints} {ref : PolicyRef}

/-- The entries once the latest file has its first point. -/
theorem Formed.complete (hw : FileTable.WellPlaced (file :: older)) (hm : Formed older m)
    (hself : m.file? (some (older.length + 1)) = some {})
    (hp : m.file? file.parentKey = some parent) :
    Formed (file :: older) (m.complete (older.length + 1) file.parentKey file.parentOffset ref) := by
  have hlatest := FileTable.lookup_cons_self file older
  have hpne := parentKey_ne hw hlatest (Int.le_refl _)
  constructor
  · intro points hroot
    rw [file?_complete_of_ne (by simp)] at hroot
    exact hm.root points hroot
  · intro id source points hs hpts
    rcases FileTable.lookup_cons_cases hs with ⟨rfl, rfl⟩ | hs'
    · rw [file?_complete_self hself, Option.some.injEq] at hpts
      subst hpts
      refine ⟨FilePoints.rising_singleton rfl, rfl, rfl, parent, ?_⟩
      rw [file?_complete_of_ne hpne, hp]
    · have := FileTable.lookup_bounds hs'
      rw [file?_complete_of_ne (by simp; omega)] at hpts
      obtain ⟨hr, hpar, hoff, grand, hgrand⟩ := hm.entered id source points hs' hpts
      refine ⟨hr, hpar, hoff, grand, ?_⟩
      rw [file?_complete_of_ne (parentKey_ne hw hs (by omega)), hgrand]

/-- What happened since before the latest file was entered, once it has its first point. -/
theorem Discovers.complete (hw : FileTable.WellPlaced (file :: older))
    (hnone : map.file? (some (older.length + 1)) = none)
    (hd : Discovers older target (map.insertFile (some (older.length + 1))) m)
    (hp : m.file? file.parentKey = some parent)
    (hl : parent.lookup file.parentOffset = .ok ref) :
    Discovers (file :: older) (older.length + 1) map
      (m.complete (older.length + 1) file.parentKey file.parentOffset ref) := by
  have hlatest := FileTable.lookup_cons_self file older
  have hpne := parentKey_ne hw hlatest (Int.le_refl _)
  have hself := hd.kept _ _ (file?_insertFile_self hnone)
  refine ⟨?_, ?_, ?_⟩
  · have hentered := (alike_insertFile map (some (older.length + 1))).trans hd.toAlike
    exact hentered.trans ((alike_updateFile m _ _).trans (alike_pushPoint _ _ _))
  · intro key points hkey
    have hne : key ≠ some (older.length + 1 : Int) := by
      rintro rfl
      rw [hnone] at hkey
      cases hkey
    rw [file?_complete_of_ne hne]
    exact hd.kept key points (file?_insertFile_kept hkey)
  · intro id points hn hpts
    -- The latest file is new itself; any other new file was discovered on the way to its parent.
    by_cases hid : id = older.length + 1
    · subst hid
      rw [file?_complete_self hself, Option.some.injEq] at hpts
      subst hpts
      refine ⟨Int.le_refl _, file, parent, ref, hlatest, ?_, hl, rfl⟩
      rw [file?_complete_of_ne hpne, hp]
    · have hne : some id ≠ some (older.length + 1 : Int) := by simpa using hid
      rw [file?_complete_of_ne hne] at hpts
      have hn' : (map.insertFile (some (older.length + 1))).file? (some id) = none := by
        rw [file?_insertFile_of_ne hne, hn]
      obtain ⟨-, source, grand, r, hs, hgrand, hgl, heq⟩ := hd.fresh id points hn' hpts
      have hs' : FileTable.lookup (file :: older) id = some source :=
        FileTable.lookup_cons_of_lookup hs
      have := FileTable.lookup_bounds hs
      refine ⟨by omega, source, grand, r, hs', ?_, hgl, heq⟩
      rw [file?_complete_of_ne (parentKey_ne hw hs' (by omega)), hgrand]

end Latest

/-- Entering a known file cannot fail if the include points are well placed. -/
theorem exists_enterFile (hw : FileTable.WellPlaced sources) {id : Int} {source : SourceFile}
    (hs : FileTable.lookup sources id = some source) (hm : Formed sources map) {first : PolicyRef}
    (hf : map.first = some first) :
    ∃ map', (enterFile sources id).perform map = (.ok (), map') ∧ Formed sources map' ∧
      Discovers sources id map map' ∧ ∃ points, map'.file? (some id) = some points := by
  -- The induction is on the files, with all newer entries waiting for their first point.
  induction sources generalizing id source map with
  | nil => cases hs
  | cons file older ih =>
    cases hent : map.file? (some id) with
    | some points =>
      exact ⟨map, enterFile_entered ⟨source, hs⟩ hent, hm, Discovers.refl _ _ _, points, hent⟩
    | none =>
      rcases FileTable.lookup_cons_cases hs with ⟨rfl, rfl⟩ | hs'
      · have hm₁ := hm.insertFile_latest
        have hparent : ∃ m target, (enterParent older source).perform
            (map.insertFile (some (older.length + 1))) = (.ok (), m) ∧ Formed older m ∧
              Discovers older target (map.insertFile (some (older.length + 1))) m ∧
                ∃ parent, m.file? source.parentKey = some parent ∧ parent.Rising := by
          unfold enterParent SourceFile.parentKey
          cases hat : source.includedAt with
          | none =>
            obtain ⟨m, hperf, hm₂, hd, root, hroot⟩ := exists_enterRoot hm₁ hf
            exact ⟨m, 0, hperf, hm₂, hd, root, hroot, hm₂.root_rising hroot⟩
          | some loc =>
            obtain ⟨-, includer, hi⟩ := hw.1 loc hat
            obtain ⟨m, hperf, hm₂, hd, points, hpts⟩ := ih hw.2 hi hm₁ hf
            exact ⟨m, _, hperf, hm₂, hd, points, hpts, (hm₂.entered _ _ _ hi hpts).1⟩
        obtain ⟨m, _, hperf, hm₂, hd, parent, hp, hrise⟩ := hparent
        have hpne := parentKey_ne hw hs (Int.le_refl _)
        have hself := hd.kept _ _ (file?_insertFile_self hent)
        obtain ⟨ref, hl⟩ := hrise.exists_lookup (hw.parentOffset_nonneg hs)
        refine ⟨_, ?_, hm₂.complete hw hself hp, hd.complete hw hent hp hl, _,
          file?_complete_self hself⟩
        rw [enterFile_latest hent, perform_bind_of_ok hperf, perform_inherit hp hpne hl]
      · have hid : id ≠ older.length + 1 := by
          have := FileTable.lookup_bounds hs'
          omega
        obtain ⟨m, hperf, hm₂, hd, hpts⟩ := ih hw.2 hs' hm.tail hf
        refine ⟨m, ?_, hm.of_discovers hm₂ hd, hd.cons, hpts⟩
        rw [← hperf, enterFile, if_neg hid]

/-- Wherever the other files hang, a top-level file that is entered first gets one point, with the
initial policy. -/
theorem exists_enterFile_topLevel {id : Int} {source : SourceFile}
    (hs : FileTable.lookup sources id = some source) (htop : source.includedAt = none)
    (hfiles : map.files = []) {first : PolicyRef} (hf : map.first = some first) :
    ∃ map' points, (enterFile sources id).perform map = (.ok (), map') ∧ Alike map map' ∧
      map'.file? (some id) = some points ∧ points.points = [⟨first, 0⟩] := by
  have hnone := file?_of_nil hfiles
  induction sources with
  | nil => cases hs
  | cons file older ih =>
    rcases FileTable.lookup_cons_cases hs with ⟨rfl, rfl⟩ | hs'
    · have hwaits : Formed [] (map.insertFile (some (older.length + 1))) := by
        refine ⟨fun root hroot => ?_, fun _ _ _ hnil => by cases hnil⟩
        rw [file?_insertFile_of_ne (by simp), hnone] at hroot
        cases hroot
      -- A top-level file hangs off the root, which is entered first and has the initial policy.
      obtain ⟨m, hperf, hm, hd, root, hroot⟩ := @exists_enterRoot _ 0 _ _ hwaits hf
      obtain ⟨ref, hfirst, hpoint⟩ := hm.root root hroot
      have hsame : ref = first := by
        rw [hd.first, show (map.insertFile _).first = map.first from rfl, hf,
          Option.some.injEq] at hfirst
        exact hfirst.symm
      subst hsame
      have hl : root.lookup 0 = .ok ref := FilePoints.lookup_singleton hpoint (Int.le_refl 0)
      have hself := hd.kept _ _ (file?_insertFile_self (hnone (some (older.length + 1))))
      refine ⟨m.complete (older.length + 1) none 0 ref, _, ?_, ?_, file?_complete_self hself, rfl⟩
      · have hparent : enterParent older source = enterRoot := by
          unfold enterParent
          rw [htop]
        have hkey : source.parentKey = none := by
          unfold SourceFile.parentKey
          rw [htop]
          rfl
        have hoff : source.parentOffset = 0 := by
          unfold SourceFile.parentOffset
          rw [htop]
          rfl
        rw [enterFile_latest (hnone _), hparent, hkey, hoff, perform_bind_of_ok hperf,
          perform_inherit hroot (by simp) hl]
      · have hentered := (alike_insertFile map (some (older.length + 1))).trans hd.toAlike
        exact hentered.trans ((alike_updateFile m _ _).trans (alike_pushPoint _ _ _))
    · have hid : id ≠ older.length + 1 := by
        have := FileTable.lookup_bounds hs'
        omega
      rw [enterFile, if_neg hid]
      exact ih hs'

end Diagnostics.PolicyMap
