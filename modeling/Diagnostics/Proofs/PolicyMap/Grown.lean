import Diagnostics.Proofs.PolicyMap.Discovery
import Diagnostics.Proofs.PolicyMap.Steady

/-!
# Entering files only adds entries

Whatever the table of files looks like, and also where it fails half way, entering a file leaves all
entries that were there as they are and adds new ones behind them. A new entry has one point, with what
it inherits at that moment, or no point if its entering failed. Look-ups do nothing else to a map.

With well placed include points `Discovers` says more about a look-up that cannot fail; `Grown` is what is
left of it when nothing is known about the files.
-/

set_option autoImplicit false

namespace Diagnostics

/-- Without points there is no policy. -/
theorem FilePoints.lookup_ne_ok {file : FilePoints} {x : Int} {ref : PolicyRef}
    (hnil : file.points = []) : file.lookup x ≠ .ok ref := by
  intro h
  obtain ⟨p, hp, -⟩ := exists_mem_of_lookup h
  simp [hnil] at hp

namespace PolicyMap

open Diagnostics.Action

/-- An entry has no point, or only the one that it inherited: the root has the initial policy, and a file
what its parent has at its include point. -/
def Inherits (map : PolicyMap) (key : FileKey) (file : FilePoints) : Prop :=
  file.points = [] ∨ ∃ ref, file.points = [⟨ref, 0⟩] ∧
    (key = none ∧ map.first = some ref ∨
      ∃ parent points, file.parent = some parent ∧ map.file? parent = some points ∧
        points.lookup file.parentOffset = .ok ref)

/-- Entries were added behind the ones that were there, each with what it inherits, and nothing else
happened but that policies got more holders. -/
structure Grown (map map' : PolicyMap) : Prop extends Alike map map' where
  kept : ∃ later, map'.files = map.files ++ later
  fresh : ∀ key file, map.file? key = none → map'.file? key = some file → map'.Inherits key file

variable {map map' map'' base m : PolicyMap} {key : FileKey} {file : FilePoints} {ref : PolicyRef}

/-! ## Growth -/

/-- An entry that was there is still found. -/
theorem Grown.file? (h : Grown map map') (hfile : map.file? key = some file) :
    map'.file? key = some file := by
  obtain ⟨later, hfiles⟩ := h.kept
  unfold PolicyMap.file? at hfile ⊢
  rw [hfiles, List.lookup_append, hfile, Option.some_or]

/-- What an entry inherited stays what it inherits while entries are added. -/
theorem Inherits.grown (hi : map.Inherits key file) (h : Grown map map') :
    map'.Inherits key file := by
  rcases hi with hnil | ⟨ref, hpts, ⟨hkey, hfirst⟩ | ⟨parent, points, hparent, hfile, hl⟩⟩
  · exact .inl hnil
  · exact .inr ⟨ref, hpts, .inl ⟨hkey, h.first.trans hfirst⟩⟩
  · exact .inr ⟨ref, hpts, .inr ⟨parent, points, hparent, h.file? hfile, hl⟩⟩

/-- Where no entry is added, nothing has grown. -/
theorem Grown.refl (map : PolicyMap) : Grown map map where
  toAlike := Alike.refl map
  kept := ⟨[], (List.append_nil _).symm⟩
  fresh key file hnone hfile := by
    rw [hnone] at hfile
    cases hfile

/-- Two times grown is grown. -/
theorem Grown.trans (h : Grown map map') (h' : Grown map' map'') : Grown map map'' where
  toAlike := h.toAlike.trans h'.toAlike
  kept := by
    obtain ⟨later, hfiles⟩ := h.kept
    obtain ⟨latest, hfiles'⟩ := h'.kept
    exact ⟨later ++ latest, by rw [hfiles', hfiles, List.append_assoc]⟩
  fresh key file hnone hfile := by
    cases hmid : map'.file? key with
    | none => exact h'.fresh key file hmid hfile
    | some entry =>
      have hkept := h'.file? hmid
      rw [hfile, Option.some.injEq] at hkept
      subst hkept
      exact (h.fresh key file hnone hmid).grown h'

/-- An entry without points may be added. -/
theorem grown_insertFile (map : PolicyMap) (key : FileKey) : Grown map (map.insertFile key) where
  toAlike := alike_insertFile map key
  kept := ⟨_, rfl⟩
  fresh k file hk hfile := by
    rw [file?_insertFile, hk, Option.none_or] at hfile
    split at hfile
    · cases hfile
      exact .inl rfl
    · cases hfile

/-- An entry that was added without points may be changed, if it then has what it inherits. -/
theorem Grown.update (h : Grown base map) (hnone : base.file? key = none)
    (hself : map.file? key = some file) (hnil : file.points = []) {f : FilePoints → FilePoints}
    (halike : Alike map map') (hfiles : map'.files = (map.updateFile key f).files)
    (hf : map'.Inherits key (f file)) : Grown base map' where
  toAlike := h.toAlike.trans halike
  kept := by
    obtain ⟨later, hkept⟩ := h.kept
    have hold := map_of_not_mem f (PolicyMap.file?_eq_none hnone)
    unfold updateFile at hfiles
    rw [hkept, List.map_append, hold] at hfiles
    exact ⟨_, hfiles⟩
  fresh k entry hk hentry := by
    have hfile : ∀ k, map'.file? k = if k = key then (map.file? k).map f else map.file? k := by
      intro k
      rw [← file?_updateFile]
      unfold PolicyMap.file?
      rw [hfiles]
    rw [hfile] at hentry
    by_cases hkey : k = key
    · rw [if_pos hkey, hkey, hself, Option.map_some, Option.some.injEq] at hentry
      rw [hkey, ← hentry]
      exact hf
    · rw [if_neg hkey] at hentry
      rcases h.fresh k entry hk hentry with hpts | ⟨ref, hpts, ⟨hroot, hfirst⟩ | hincluded⟩
      · exact .inl hpts
      · exact .inr ⟨ref, hpts, .inl ⟨hroot, halike.first.trans hfirst⟩⟩
      · obtain ⟨parent, points, hparent, hpoints, hl⟩ := hincluded
        -- Nobody can have inherited from an entry without points.
        have hne : parent ≠ key := by
          rintro rfl
          rw [hself, Option.some.injEq] at hpoints
          subst hpoints
          exact FilePoints.lookup_ne_ok hnil hl
        refine .inr ⟨ref, hpts, .inr ⟨parent, points, hparent, ?_, hl⟩⟩
        rw [hfile, if_neg hne, hpoints]

/-- An entry that was added without points gets the one that it inherits. -/
theorem Grown.pushPoint (h : Grown base map) (hnone : base.file? key = none)
    (hself : map.file? key = some file) (hnil : file.points = [])
    (hf : (map.pushPoint key ⟨ref, 0⟩).Inherits key { file with points := [⟨ref, 0⟩] }) :
    Grown base (map.pushPoint key ⟨ref, 0⟩) := by
  refine h.update (f := fun file => { file with points := file.points ++ [⟨ref, 0⟩] }) hnone hself
    hnil (alike_pushPoint _ _ _) rfl ?_
  rw [hnil]
  exact hf

/-! ## Entering files -/

/-- An operation that only adds entries may be done anywhere in between. -/
theorem keeps_grown {α : Type} {x : Action PolicyMap α}
    (h : ∀ map, EndsIn true (Grown map) map x) (base : PolicyMap) : Keeps true (Grown base) x :=
  fun map hbase => (h map).imp fun _ hmap => hbase.trans hmap

/-- Entering no file at all adds the entry of the root. -/
theorem grown_enterRoot (map : PolicyMap) : EndsIn true (Grown map) map enterRoot := by
  unfold enterRoot
  apply endsIn_get_bind
  split
  · rename_i hnone
    rw [Option.isNone_iff_eq_none] at hnone
    apply endsIn_modify_bind
    have hroot := grown_insertFile map none
    apply endsIn_get_bind
    split
    · rename_i ref hfirst
      apply endsIn_modify
      exact hroot.pushPoint hnone (file?_insertFile_self hnone) rfl
        (.inr ⟨ref, rfl, .inl ⟨rfl, hfirst⟩⟩)
    · exact endsIn_throw _ hroot
  · exact endsIn_pure _ (Grown.refl map)

/-- An entry that was added without points gets its parent, and the first point if its parent has a
policy there. -/
theorem grown_inherit {id : Int} {parent : FileKey} {offset : Int} (h : Grown base map)
    (hnone : base.file? (some id) = none) (hself : map.file? (some id) = some file)
    (hnil : file.points = []) : EndsIn true (Grown base) map (inherit id parent offset) := by
  unfold inherit
  apply endsIn_modify_bind
  have hadopted := h.update hnone hself hnil (alike_updateFile map (some id) fun points =>
    { points with parent := some parent, parentOffset := offset }) rfl (.inl hnil)
  have hself' : (map.updateFile (some id) fun points =>
      { points with parent := some parent, parentOffset := offset }).file? (some id) =
        some { file with parent := some parent, parentOffset := offset } := by
    simp [hself]
  generalize (map.updateFile (some id) fun points =>
    { points with parent := some parent, parentOffset := offset }) = map at hadopted hself' ⊢
  apply endsIn_get_bind
  apply endsIn_bind (endsIn_ofExcept _ hadopted)
  intro ref map' hperf _
  obtain ⟨hl, rfl⟩ := perform_ofExcept_eq_ok.mp hperf
  apply endsIn_modify
  have hne : parent ≠ some id := by
    rintro rfl
    rw [hself', Option.getD_some] at hl
    exact FilePoints.lookup_ne_ok hnil hl
  cases hparent : map.file? parent with
  | none =>
    rw [hparent] at hl
    exact absurd hl (FilePoints.lookup_ne_ok rfl)
  | some points =>
    rw [hparent, Option.getD_some] at hl
    refine hadopted.pushPoint hnone hself' hnil
      (.inr ⟨ref, rfl, .inr ⟨parent, points, rfl, ?_, hl⟩⟩)
    rw [file?_pushPoint, if_neg hne, hparent]

/-- Entering a file adds its entry and those of its includers. -/
theorem grown_enterFile (sources : List SourceFile) (id : Int) (map : PolicyMap) :
    EndsIn true (Grown map) map (enterFile sources id) := by
  -- The induction is on the files; the entries of newer ones are there already and wait.
  induction sources generalizing id map with
  | nil =>
    unfold enterFile
    apply endsIn_get_bind
    split
    · rename_i hnone
      rw [Option.isNone_iff_eq_none] at hnone
      exact endsIn_modify_bind (endsIn_throw _ (grown_insertFile map _))
    · exact endsIn_pure _ (Grown.refl map)
  | cons file older ih =>
    unfold enterFile
    split
    · apply endsIn_get_bind
      split
      · rename_i hnone
        rw [Option.isNone_iff_eq_none] at hnone
        apply endsIn_modify_bind
        have hinherit : ∀ parent offset map',
            Grown map map' ∧ Grown (map.insertFile (some id)) map' →
              EndsIn true (Grown map) map' (inherit id parent offset) := by
          intro parent offset map' hgrown
          exact grown_inherit hgrown.1 hnone (hgrown.2.file? (file?_insertFile_self hnone)) rfl
        have hboth : ∀ map', Grown (map.insertFile (some id)) map' →
            Grown map map' ∧ Grown (map.insertFile (some id)) map' := fun map' h =>
          ⟨(grown_insertFile map _).trans h, h⟩
        split
        · refine endsIn_bind (x := enterRoot) ?_ fun _ map' hperf hmap' => ?_
          · exact (grown_enterRoot _).imp fun map' h => (hboth map' h).1
          · have hroot := (grown_enterRoot (map.insertFile (some id))).of_ok hperf
            exact hinherit _ _ map' (hboth map' hroot)
        · rename_i loc hat
          refine endsIn_bind (x := enterFile older loc.file) ?_ fun _ map' hperf hmap' => ?_
          · exact (ih loc.file _).imp fun map' h => (hboth map' h).1
          · exact hinherit _ _ map' (hboth map' ((ih loc.file _).of_ok hperf))
      · exact endsIn_pure _ (Grown.refl map)
    · exact ih id map

/-- Entering what a file inherits from adds entries only. -/
theorem grown_enterParent (sources : List SourceFile) (source : SourceFile) (map : PolicyMap) :
    EndsIn true (Grown map) map (enterParent sources source) := by
  unfold enterParent
  split
  · exact grown_enterRoot map
  · exact grown_enterFile sources _ map

/-- Entering anything adds entries only. -/
theorem grown_enter (table : FileTable) (key : FileKey) (map : PolicyMap) :
    EndsIn true (Grown map) map (enter table key) := by
  have hpoints : ∀ base, Keeps true (Grown base)
      (do return ((← get).file? key).getD {} : Action PolicyMap FilePoints) := fun base =>
    keeps_get_bind fun _ h => endsIn_pure _ h
  unfold enter
  cases key with
  | none => exact endsIn_bind (grown_enterRoot map) fun _ map' _ h => hpoints map map' h
  | some id => exact endsIn_bind (grown_enterFile _ id map) fun _ map' _ h => hpoints map map' h

/-- A look-up adds entries and does nothing else, whether it fails or not. -/
theorem grown_lookup (service : LocationService) (table : FileTable) (loc : Location)
    (map : PolicyMap) : EndsIn true (Grown map) map (lookup service table loc) := by
  have hgrown := Grown.refl map
  unfold lookup
  apply endsIn_get_bind
  split
  · exact endsIn_get_bind (endsIn_pure _ hgrown)
  · refine keeps_bind (keeps_ofExcept _) (fun found => ?_) map hgrown
    refine keeps_bind (keeps_grown (grown_enter table (some found.1)) map) fun file => ?_
    exact keeps_bind (keeps_ofExcept _) fun _ => keeps_pure _

end PolicyMap

end Diagnostics
